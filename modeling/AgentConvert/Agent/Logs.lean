import AgentConvert.LogShipper.Job

/-!
# Logs

Log shippers that an agent embeds. Each is converted as a configuration of its own, with the
clients and the place for positions that all share where it has none itself.
-/

namespace AgentConvert.Agent

/-- What all embedded log shippers share. -/
structure LogsDefaults where
  clients : List LogShipper.Client := []
  deriving Inhabited

def LogsDefaults.record : Record LogsDefaults where
  name := "LogsGlobal"
  initial := {}
  fields := [
    .of "clients" (Decode.list LogShipper.Client.record.decode) fun v s => { s with clients := v }]

/-- An embedded log shipper. -/
structure LogsInstance where
  name : String := ""
  clients : List LogShipper.Client := []
  positions : LogShipper.Positions := {}
  jobs : List LogShipper.ScrapeJob := []
  target : LogShipper.TargetSettings := {}
  limits : Option Value := none
  deriving Inhabited

def LogsInstance.record : Record LogsInstance where
  name := "LogsInstance"
  initial := {}
  fields := [
    .of "name" Decode.text fun v s => { s with name := v },
    .of "clients" (Decode.list LogShipper.Client.record.decode) fun v s =>
      { s with clients := v },
    .of "positions" LogShipper.Positions.record.decode fun v s => { s with positions := v },
    .of "scrape_configs" (Decode.list LogShipper.ScrapeJob.record.decode) fun v s =>
      { s with jobs := v },
    .of "target_config" LogShipper.TargetSettings.record.decode fun v s => { s with target := v },
    .of "limits_config" (Decode.optional Decode.kept) fun v s => { s with limits := v }]

/-- The logs section. -/
structure LogsSection where
  positionsDirectory : Option String := none
  defaults : LogsDefaults := {}
  instances : List LogsInstance := []
  deriving Inhabited

def LogsSection.record : Record LogsSection where
  name := "LogsConfig"
  initial := {}
  fields := [
    .of "positions_directory" (Decode.optional Decode.text) fun v s =>
      { s with positionsDirectory := v },
    .of "global" LogsDefaults.record.decode fun v s => { s with defaults := v },
    .of "configs" (Decode.list LogsInstance.record.decode) fun v s => { s with instances := v }]

namespace LogsInstance

/-- The file for the positions in a directory. -/
def positionsFile (directory name : String) : String :=
  String.ofList (Text.dropEndWhile (· == '/') directory.toList) ++ "/" ++ name ++ ".yml"

/-- The configuration of the embedded log shipper. -/
def standalone (s : LogsSection) (i : LogsInstance) : LogShipper.Config where
  clients := if i.clients.isEmpty then s.defaults.clients else i.clients
  positions := { i.positions with
    filename := i.positions.filename.or (s.positionsDirectory.map (positionsFile · i.name)) }
  jobs := i.jobs
  target := i.target
  limits := i.limits

/-- Converts the embedded log shipper. -/
def convert (s : LogsSection) (i : LogsInstance) : Labelling Draft :=
  (i.standalone s).convertJobs (labelOfParts ["logs", i.name])

end LogsInstance

/-- Converts the section. -/
def LogsSection.convert (s : LogsSection) : Labelling Draft := do
  return .concat (← s.instances.mapM (·.convert s))

end AgentConvert.Agent
