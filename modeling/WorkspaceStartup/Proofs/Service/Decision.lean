import WorkspaceStartup.Service.Answer
import WorkspaceStartup.Service.Watch

/-!
# Responses that decide

A watch for a status asks for the details of a workspace.  The response decides how
it ends, unless it tells of a workspace in another status: it may be lost, it may
be no answer or one that refuses, it may tell of no workspace, or of one that has
come to the status.
-/

namespace WorkspaceStartup

/-- The status is that of an answer.  Any other below 200 only announces one, and
those without three digits mean nothing. -/
def Answer.IsFinal (answer : Answer) : Prop :=
  answer.status = 101 ∨ 200 ≤ answer.status ∧ answer.status ≤ 999

/-- The status is one of success. -/
def Answer.Succeeds (answer : Answer) : Prop :=
  200 ≤ answer.status ∧ answer.status < 300

/-- What a response is to somebody who has made a request. -/
def replyOf (response : Except String Answer) : Reply :=
  (response.mapError .transport).bind Answer.reply

/-- The details that a response to a request for them tells. -/
def detailsOf (response : Except String Answer) :
    Except ControlFailure Workspace :=
  (replyOf response).bind (Answer.read Workspace.decode)

/-- The response ends a watch for a status with the result. -/
inductive Decides (target : Status) :
    Except String Answer → Except ControlFailure StatusChange → Prop
  | lost (detail : String) :
      Decides target (.error detail) (.error (.transport detail))
  | unfinished {answer : Answer} (announces : ¬answer.IsFinal) :
      Decides target (.ok answer) (.error (.transport "error sending request"))
  | refused {answer : Answer} (isFinal : answer.IsFinal)
      (fails : ¬answer.Succeeds) :
      Decides target (.ok answer)
        (.error (.answered answer.status
          (ControlFailure.messageOf (Text.shownTextOfBytes answer.content))))
  | unreadable {answer : Answer} (succeeds : answer.Succeeds)
      (noWorkspace : ∀ workspace,
        Json.decodeBytes Workspace.decode answer.content ≠ .ok workspace) :
      Decides target (.ok answer)
        (.error (.unreadable Answer.unreadableText))
  | reached {answer : Answer} {workspace : Workspace}
      (succeeds : answer.Succeeds)
      (decoded :
        Json.decodeBytes Workspace.decode answer.content = .ok workspace)
      (isTarget : workspace.status = target) :
      Decides target (.ok answer) (.ok ⟨workspace.id, target, none⟩)

section Deciding

variable {target : Status} {response : Except String Answer} {answer : Answer}
  {result : Except ControlFailure StatusChange}

theorem Answer.isWhole_iff : answer.isWhole = true ↔ answer.IsFinal := by
  simp [Answer.isWhole, Answer.IsFinal]

theorem Answer.Succeeds.isFinal (succeeds : answer.Succeeds) : answer.IsFinal :=
  .inr ⟨succeeds.1, Nat.le_of_lt (Nat.lt_trans succeeds.2 (by decide))⟩

theorem detailsOf_of_announces (announces : ¬answer.IsFinal) :
    detailsOf (.ok answer) = .error (.transport "error sending request") := by
  rw [← Answer.isWhole_iff] at announces
  change answer.reply.bind _ = _
  rw [Answer.reply, if_neg announces]
  rfl

theorem detailsOf_of_isFinal (isFinal : answer.IsFinal) :
    detailsOf (.ok answer) = answer.read Workspace.decode := by
  change answer.reply.bind _ = _
  rw [Answer.reply, if_pos (Answer.isWhole_iff.mpr isFinal)]
  rfl

theorem detailsOf_of_succeeds (succeeds : answer.Succeeds) :
    detailsOf (.ok answer) =
      (Json.decodeBytes Workspace.decode answer.content).mapError fun _ =>
        .unreadable Answer.unreadableText := by
  have checked : answer.check = .ok answer := by
    have isSuccess : answer.isSuccess = true := by
      simpa [Answer.isSuccess, Answer.Succeeds] using succeeds
    rw [Answer.check, if_pos isSuccess]
  rw [detailsOf_of_isFinal succeeds.isFinal]
  simp only [Answer.read, checked, bind, Except.bind]
  cases Json.decodeBytes Workspace.decode answer.content <;> rfl

theorem detailsOf_of_fails (isFinal : answer.IsFinal)
    (fails : ¬answer.Succeeds) :
    detailsOf (.ok answer) =
      .error (.answered answer.status
        (ControlFailure.messageOf (Text.shownTextOfBytes answer.content))) := by
  have isFailure : ¬answer.isSuccess = true := by
    simpa [Answer.isSuccess, Answer.Succeeds] using fails
  rw [detailsOf_of_isFinal isFinal, Answer.read, Answer.check, if_neg isFailure]
  rfl

/-- A successful answer decides by what can be read in it. -/
theorem decide?_eq_some_iff_of_succeeds (succeeds : answer.Succeeds) :
    StatusWatch.decide? target (detailsOf (.ok answer)) = some result ↔
      Decides target (.ok answer) result := by
  rw [detailsOf_of_succeeds succeeds]
  cases decoded : Json.decodeBytes Workspace.decode answer.content with
  | error fault =>
      constructor
      · rintro ⟨⟩
        refine .unreadable succeeds fun workspace => ?_
        rw [decoded]
        nofun
      · intro decides
        cases decides with
        | unfinished announces => exact (announces succeeds.isFinal).elim
        | refused _ fails => exact (fails succeeds).elim
        | unreadable => rfl
        | reached _ read => cases decoded.symm.trans read
  | ok workspace =>
      change (if workspace.status = target then
          some (.ok ⟨workspace.id, workspace.status, none⟩)
        else none) = some result ↔ _
      rw [Option.ite_none_right_eq_some, Option.some.injEq]
      constructor
      · rintro ⟨isTarget, rfl⟩
        rw [isTarget]
        exact .reached succeeds decoded isTarget
      · intro decides
        cases decides with
        | unfinished announces => exact (announces succeeds.isFinal).elim
        | refused _ fails => exact (fails succeeds).elim
        | unreadable _ noWorkspace => exact (noWorkspace _ decoded).elim
        | reached _ read isTarget =>
            cases decoded.symm.trans read
            exact ⟨isTarget, by rw [isTarget]⟩

/-- A watch decides what its responses decide. -/
theorem decide?_detailsOf_eq_some_iff :
    StatusWatch.decide? target (detailsOf response) = some result ↔
      Decides target response result := by
  cases response with
  | error detail =>
      constructor
      · rintro ⟨⟩
        exact .lost detail
      · rintro ⟨⟩
        rfl
  | ok answer =>
      by_cases succeeds : answer.Succeeds
      · exact decide?_eq_some_iff_of_succeeds succeeds
      by_cases isFinal : answer.IsFinal
      · rw [detailsOf_of_fails isFinal succeeds]
        constructor
        · rintro ⟨⟩
          exact .refused isFinal succeeds
        · intro decides
          cases decides with
          | unfinished announces => exact (announces isFinal).elim
          | refused => rfl
          | unreadable succeed => exact (succeeds succeed).elim
          | reached succeed => exact (succeeds succeed).elim
      · rw [detailsOf_of_announces isFinal]
        constructor
        · rintro ⟨⟩
          exact .unfinished isFinal
        · intro decides
          cases decides with
          | unfinished => rfl
          | refused answers => exact (isFinal answers).elim
          | unreadable succeed => exact (succeeds succeed).elim
          | reached succeed => exact (succeeds succeed).elim

end Deciding

end WorkspaceStartup
