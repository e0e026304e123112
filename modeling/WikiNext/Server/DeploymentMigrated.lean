import WikiNext.App.MigrationRuns
import WikiNext.Server.DeploymentSteps

/-!
# A deployment that has been migrated

Doctors and servers that are started once a `migrate` with their configuration file has
succeeded, while other `migrate` processes may go on.

§1 the result, §2 a doctor after a migration.
-/

namespace WikiNext.Server

open WikiNext.Foundation WikiNext.Core WikiNext.App WikiNext.Store WikiNext.Search
open WikiNext.Store.Migrations

/-! ## §1  The result -/

/-- How a command ends in whose way nothing stands. -/
def GetsThrough (network : Network) (config : Config) (command : Stepwise.Command) :
    Except CliError (List DiagnosticReport) → Prop
  | .ok reports => reports.length = (commandComponents command).length ∧
      ∀ report ∈ reports, report.healthy = true
  | .error error => isServe command = true ∧
      ∃ source, error = .server source ∧ openSocket network config.server.bind = .error source

/-- The small host with a database that two processes have migrated. -/
def migratedHost : Host SmallDatabase where
  toml := smallHost.toml
  files := smallHost.files
  env := smallHost.env
  filter := smallHost.filter
  pretty := smallHost.pretty
  external := smallHost.external
  sqlx := smallCluster.sqlx true
  machine := smallHost.machine
  network := smallHost.network
  deadline := none
  life := []
  ending := .finished (.ok ())

/-- A server and a doctor that find the database so. -/
abbrev migratedProcesses (d : SmallDatabase) :
    System (Shared Bool SmallDatabase) (SharedEvent Bool SmallDatabase) :=
  processes migratedHost smallDeployed d (oneDirectory "srv".toList 0o755) serverOrDoctor
    (fun _ => smallHost.network) serverOrDoctorCommands

end WikiNext.Server
