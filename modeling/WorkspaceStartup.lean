import WorkspaceStartup.Activity
import WorkspaceStartup.Bus.Client
import WorkspaceStartup.Logging
import WorkspaceStartup.Main
import WorkspaceStartup.Proofs.Abandonment
import WorkspaceStartup.Proofs.Activity
import WorkspaceStartup.Proofs.Bus.Wanted
import WorkspaceStartup.Proofs.Connection
import WorkspaceStartup.Proofs.Controller.Closing
import WorkspaceStartup.Proofs.Controller.Collecting
import WorkspaceStartup.Proofs.Controller.Currency
import WorkspaceStartup.Proofs.Controller.Ending
import WorkspaceStartup.Proofs.Controller.Handling
import WorkspaceStartup.Proofs.Controller.Locating
import WorkspaceStartup.Proofs.Controller.Noninterference
import WorkspaceStartup.Proofs.Controller.Pipeline
import WorkspaceStartup.Proofs.Controller.Subscribing
import WorkspaceStartup.Proofs.Launch
import WorkspaceStartup.Proofs.Progress.History
import WorkspaceStartup.Proofs.Roster
import WorkspaceStartup.Proofs.Service.Polling
import WorkspaceStartup.Proofs.Service.Target
import WorkspaceStartup.Proofs.Settings.Load
import WorkspaceStartup.Proofs.Settings.Nulls
import WorkspaceStartup.Proofs.Socket
import WorkspaceStartup.Rehearsal.Connecting
import WorkspaceStartup.Rehearsal.Site
import WorkspaceStartup.Rehearsal.Starting
import WorkspaceStartup.Roster
