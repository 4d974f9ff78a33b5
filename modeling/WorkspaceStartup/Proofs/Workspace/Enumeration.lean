import Mathlib.Data.List.Perm.Basic
import WorkspaceStartup.Endpoint
import WorkspaceStartup.Proofs.Dictionary

/-!
# Servers in any order

Nothing says in which order the servers of a machine come, so they are
searched here in every order.  A name leads to the same server each time,
because no two servers share it.  Several servers may carry one reference,
though, and each of them is the first in some order: what is found, and with it
the endpoint of the agent, is settled only if they all lead to the same.  To search
in an order is to search, by name, a machine that has only the server which the
order finds (`resolve?_arranged`).
-/

namespace WorkspaceStartup

section Search

variable {α : Type} {name : String} {entries other : List (String × α)}

theorem lookUp?_of_perm (distinct : (entries.map (·.1)).Nodup)
    (permutation : other.Perm entries) :
    lookUp? name other = lookUp? name entries := by
  have distinctOther : (other.map (·.1)).Nodup :=
    (permutation.map _).nodup_iff.mpr distinct
  refine Option.ext fun value => ?_
  rw [lookUp?_eq_some_iff_of_nodup distinct,
    lookUp?_eq_some_iff_of_nodup distinctOther, permutation.mem_iff]

end Search

namespace Machine

variable {machine : Machine} {reference : String} {server : Server}

/-- The servers of a machine with their names, in the order of a search. -/
structure Enumeration (machine : Machine) where
  entries : List (String × Server)
  complete : entries.Perm machine.runtime.servers.entries

/-- A server of the machine that carries the reference. -/
def Refers (machine : Machine) (reference : String) (server : Server) : Prop :=
  server ∈ machine.runtime.servers.values ∧ server.reference = some reference

namespace Enumeration

/-- The order of the names. -/
def byName (machine : Machine) : machine.Enumeration :=
  ⟨machine.runtime.servers.entries, .refl _⟩

def reversed (machine : Machine) : machine.Enumeration :=
  ⟨machine.runtime.servers.entries.reverse, List.reverse_perm _⟩

/-- The order that begins with one of the servers. -/
def startingWith (entry : String × Server)
    (member : entry ∈ machine.runtime.servers.entries) : machine.Enumeration :=
  ⟨entry :: machine.runtime.servers.entries.erase entry,
    (List.perm_cons_erase member).symm⟩

variable (enumeration : machine.Enumeration)

/-- The first server of that name in the order. -/
def server? (name : String) : Option Server :=
  lookUp? name enumeration.entries

/-- The first server in the order that carries the reference. -/
def serverByReference? (reference : String) : Option Server :=
  firstReferring reference (enumeration.entries.map (·.2))

theorem serverByReference?_byName (machine : Machine) (reference : String) :
    (byName machine).serverByReference? reference =
      machine.serverByReference? reference :=
  rfl

/-- A name leads to the same server in every order. -/
@[simp] theorem server?_eq (name : String) :
    enumeration.server? name = machine.server? name :=
  lookUp?_of_perm (nodup_of_ordered machine.runtime.servers.ordered)
    enumeration.complete

theorem mem_values_iff :
    server ∈ enumeration.entries.map (·.2) ↔
      server ∈ machine.runtime.servers.values :=
  (enumeration.complete.map _).mem_iff

variable {enumeration}

theorem refers_of_serverByReference?
    (found : enumeration.serverByReference? reference = some server) :
    machine.Refers reference server := by
  have marked := List.find?_some found
  exact ⟨enumeration.mem_values_iff.mp (List.mem_of_find?_eq_some found),
    beq_iff_eq.mp marked⟩

theorem serverByReference?_eq_none_iff :
    enumeration.serverByReference? reference = none ↔
      ∀ server, ¬machine.Refers reference server := by
  simp only [serverByReference?, firstReferring, List.find?_eq_none,
    enumeration.mem_values_iff, beq_iff_eq, Refers, not_and]

/-- Every server that carries the reference is the first in some order. -/
theorem exists_serverByReference?_iff :
    (∃ enumeration : machine.Enumeration,
      enumeration.serverByReference? reference = some server) ↔
      machine.Refers reference server := by
  constructor
  · rintro ⟨enumeration, found⟩
    exact refers_of_serverByReference? found
  · rintro ⟨member, marked⟩
    obtain ⟨entry, listed, rfl⟩ := List.mem_map.mp member
    refine ⟨startingWith entry listed, ?_⟩
    simp [serverByReference?, startingWith, firstReferring, marked]

/-- A reference is settled if the servers that carry it are all the same. -/
theorem serverByReference?_agrees_iff :
    (∀ first second : machine.Enumeration,
      first.serverByReference? reference =
        second.serverByReference? reference) ↔
      ∀ server other, machine.Refers reference server →
        machine.Refers reference other → server = other := by
  constructor
  · intro agree server other refers refersOther
    obtain ⟨first, found⟩ := exists_serverByReference?_iff.mpr refers
    obtain ⟨second, foundOther⟩ := exists_serverByReference?_iff.mpr refersOther
    exact Option.some.inj (found.symm.trans ((agree first second).trans foundOther))
  · intro same first second
    cases found : first.serverByReference? reference with
    | none =>
        rw [serverByReference?_eq_none_iff] at found
        exact (serverByReference?_eq_none_iff.mpr found).symm
    | some server =>
        cases foundOther : second.serverByReference? reference with
        | none =>
            rw [serverByReference?_eq_none_iff] at foundOther
            exact (foundOther server (refers_of_serverByReference? found)).elim
        | some other =>
            rw [same server other (refers_of_serverByReference? found)
              (refers_of_serverByReference? foundOther)]

end Enumeration

/-- An order for the servers of every machine. -/
abbrev Orders : Type := (machine : Machine) → machine.Enumeration

end Machine

namespace EndpointStrategy

open Machine

variable {strategy : EndpointStrategy} {workspace : Workspace}
  {machine : Machine} {endpoint : Option String}

/-! ## The endpoint of the agent -/

/-- The server of the agent when the servers come in the given order. -/
def agentServerIn? (enumeration : machine.Enumeration) : Option Server :=
  (enumeration.serverByReference? agentReference).or
    (enumeration.server? agentServerName)

/-- The endpoint when the servers of every machine come in the given order. -/
def resolveIn? (strategy : EndpointStrategy) (orders : Orders)
    (workspace : Workspace) : Option String :=
  match strategy with
  | agentServer => do
      let machine ← workspace.devMachine?
      let server ← agentServerIn? (orders machine)
      socketOf? server
  | fixedPort port => do
      let machine ← workspace.firstMachine?
      let server ← (orders machine).server? (serverName port)
      addressSocket? server

/-- All servers that are marked as the agent's lead to the same endpoint. -/
def Settles (strategy : EndpointStrategy) (workspace : Workspace) : Prop :=
  match strategy with
  | agentServer =>
      ∀ machine, workspace.devMachine? = some machine →
        ∀ server other, machine.Refers agentReference server →
          machine.Refers agentReference other →
            socketOf? server = socketOf? other
  | fixedPort _ => True

theorem resolveIn?_byName (strategy : EndpointStrategy) (workspace : Workspace) :
    strategy.resolveIn? Enumeration.byName workspace =
      strategy.resolve? workspace := by
  cases strategy <;> rfl

theorem resolveIn?_agentServer (orders : Orders)
    (isMachine : workspace.devMachine? = some machine) :
    agentServer.resolveIn? orders workspace =
      (agentServerIn? (orders machine)).bind socketOf? := by
  simp [resolveIn?, isMachine]

/-- The endpoints that are found are those of the servers marked as the agent's,
if there are any. -/
theorem exists_resolveIn?_iff (isMachine : workspace.devMachine? = some machine)
    {marked : Server} (refers : machine.Refers agentReference marked) :
    (∃ orders, agentServer.resolveIn? orders workspace = endpoint) ↔
      ∃ server, machine.Refers agentReference server ∧
        socketOf? server = endpoint := by
  constructor
  · rintro ⟨orders, rfl⟩
    rw [resolveIn?_agentServer orders isMachine]
    cases found : (orders machine).serverByReference? agentReference with
    | none =>
        rw [Enumeration.serverByReference?_eq_none_iff] at found
        exact (found marked refers).elim
    | some server =>
        refine ⟨server, Enumeration.refers_of_serverByReference? found, ?_⟩
        simp [agentServerIn?, found]
  · rintro ⟨server, refersServer, rfl⟩
    obtain ⟨enumeration, found⟩ :=
      Enumeration.exists_serverByReference?_iff.mpr refersServer
    -- Only this machine is searched, so the other ones may keep their order.
    refine ⟨Function.update Enumeration.byName machine enumeration, ?_⟩
    rw [resolveIn?_agentServer _ isMachine, Function.update_self]
    simp [agentServerIn?, found]

/-- Without a marked server the endpoint is that of the server by name. -/
theorem resolveIn?_of_unmarked (orders : Orders)
    (isMachine : workspace.devMachine? = some machine)
    (unmarked : ∀ server, ¬machine.Refers agentReference server) :
    agentServer.resolveIn? orders workspace =
      (machine.server? agentServerName).bind socketOf? := by
  rw [resolveIn?_agentServer orders isMachine, agentServerIn?,
    Enumeration.serverByReference?_eq_none_iff.mpr unmarked,
    Enumeration.server?_eq, Option.none_or]

/-- The endpoint is the same in every order exactly if the workspace settles it. -/
theorem resolveIn?_agrees_iff :
    (∀ orders others : Orders, strategy.resolveIn? orders workspace =
      strategy.resolveIn? others workspace) ↔ strategy.Settles workspace := by
  cases strategy with
  | fixedPort port =>
      refine iff_of_true ?_ trivial
      intro orders others
      simp [resolveIn?]
  | agentServer =>
      constructor
      · intro agree machine isMachine server other refers refersOther
        obtain ⟨orders, found⟩ :=
          (exists_resolveIn?_iff isMachine refers).mpr ⟨server, refers, rfl⟩
        obtain ⟨others, foundOther⟩ := (exists_resolveIn?_iff isMachine
          refers).mpr ⟨other, refersOther, rfl⟩
        rw [← found, ← foundOther, agree orders others]
      · intro settled orders others
        cases isMachine : workspace.devMachine? with
        | none => simp [resolveIn?, isMachine]
        | some machine =>
            -- The server by name counts only if no server is marked.
            by_cases unmarked : ∀ server, ¬machine.Refers agentReference server
            · rw [resolveIn?_of_unmarked orders isMachine unmarked,
                resolveIn?_of_unmarked others isMachine unmarked]
            · obtain ⟨marked, refers⟩ := not_forall_not.mp unmarked
              obtain ⟨server, refersServer, found⟩ :=
                (exists_resolveIn?_iff isMachine refers).mp ⟨orders, rfl⟩
              obtain ⟨other, refersOther, foundOther⟩ :=
                (exists_resolveIn?_iff isMachine refers).mp ⟨others, rfl⟩
              rw [← found, ← foundOther]
              exact settled machine isMachine server other refersServer
                refersOther

/-! ## The server that is found, alone -/

/-- The machine with just the server, under the name of the agent's. -/
def serving (machine : Machine) (found : Option Server) : Machine :=
  { machine with
    runtime :=
      { machine.runtime with
        servers := .ofList (found.toList.map (Prod.mk agentServerName)) } }

theorem agentServer?_serving (machine : Machine) (found : Option Server) :
    agentServer? (serving machine found) = found := by
  cases found with
  | none => rfl
  | some server =>
      have byName : (serving machine (some server)).server? agentServerName =
          some server :=
        rfl
      rw [agentServer?, byName]
      by_cases marked : server.reference = some agentReference <;>
        simp [Machine.serverByReference?, serving, Dictionary.ofList,
          Dictionary.values, fileEntries, fileEntry, firstReferring, marked]

end EndpointStrategy

/-- The details with no server of the development machine but the one that the
orders find. -/
def Workspace.arranged (orders : Machine.Orders) (workspace : Workspace) :
    Workspace :=
  { workspace with
    runtime := workspace.runtime.map fun runtime =>
      { runtime with
        devMachine := runtime.devMachine.map fun machine =>
          EndpointStrategy.serving machine
            (EndpointStrategy.agentServerIn? (orders machine)) } }

/-- Arranged details lead by name where the details lead in the orders. -/
theorem EndpointStrategy.resolve?_arranged (strategy : EndpointStrategy)
    (orders : Machine.Orders) (workspace : Workspace) :
    strategy.resolve? (workspace.arranged orders) =
      strategy.resolveIn? orders workspace := by
  obtain ⟨id, status, config, links, runtime⟩ := workspace
  cases strategy with
  | fixedPort port =>
      cases runtime with
      | none => rfl
      | some runtime =>
          simp [resolve?, resolveIn?, Workspace.firstMachine?,
            Workspace.arranged]
  | agentServer =>
      rcases runtime with _ | ⟨_ | machine, machines⟩
      · rfl
      · rfl
      · simp [resolve?, resolveIn?, Workspace.devMachine?, Workspace.arranged,
          agentServer?_serving]

end WorkspaceStartup
