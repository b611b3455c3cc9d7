import AgentConvert.Agent.Conversion
import AgentConvert.Proofs.Formatted.Result
import AgentConvert.Proofs.LogShipper.Findings

/-!
# Embedded log shippers

The logs of an agent stand behind everything else that it becomes (`Config.convert_logs`), and what
is said about them is said about each log shipper as the configuration that it stands for
(`LogsSection.yields_findings_convert`).
-/

namespace AgentConvert

namespace Agent

/-- What is said about a log shipper that an agent embeds. -/
def LogsInstance.findings (s : LogsSection) (i : LogsInstance) : Diagnostics :=
  (i.standalone s).findings ++ i.jobs.flatMap LogShipper.ScrapeJob.findings

/-- The findings of the log shippers that an agent embeds are those of each. -/
theorem LogsSection.yields_findings_convert (s : LogsSection) :
    s.convert.Yields fun d => d.findings = s.instances.flatMap (·.findings s) := by
  refine Labelling.yields_bind (Labelling.yields_findings_mapM fun i _ => ?_)
    fun ds hds => Labelling.yields_pure hds
  exact (i.standalone s).yields_findings_convertJobs (labelOfParts ["logs", i.name])

/-- The logs of an agent stand behind everything else. -/
theorem Config.convert_logs (config : Config) (s : LogsSection) :
    { config with logs := some s }.convert = (do
      let rest ← { config with logs := none }.convert
      let logs ← s.convert
      return rest ++ logs) := by
  funext ls
  let metrics := config.metrics.instances.mapM (·.convert config.metrics.defaults) ls
  let integrations := config.integrations.convert config.metrics.defaults metrics.2
  let rest : Draft := .report config.findings ++
    .ofOption (Draft.block (.ofDotted "logging") "") config.server.logging? ++
    .concat metrics.1 ++ integrations.1
  show (rest ++ (s.convert integrations.2).1, (s.convert integrations.2).2) =
    (rest ++ .empty ++ (s.convert integrations.2).1, (s.convert integrations.2).2)
  rw [Draft.append_empty]

end Agent

namespace SourceConfig

variable (registry : Collector.Registry)

/-- What is said about an agent is what is said about it without its logs and, behind it, about
each of its log shippers. -/
theorem findings_logs (config : Agent.Config) (s : Agent.LogsSection) :
    ((agent { config with logs := some s }).convert registry).findings =
      ((agent { config with logs := none }).convert registry).findings ++
        s.instances.flatMap (·.findings s) := by
  let rest := { config with logs := none }.convert .empty
  have hlogs := s.yields_findings_convert rest.2
  rw [convert_eq, convert_eq]
  show ({ config with logs := some s }.convert .empty).1.findings = rest.1.findings ++ _
  rw [Agent.Config.convert_logs config, ← hlogs]
  rfl

theorem findings_logShipper (config : LogShipper.Config) :
    ((logShipper config).convert registry).findings =
      config.server.agentFindings ++ config.findings ++
        config.jobs.flatMap LogShipper.ScrapeJob.findings := by
  rw [convert_eq]
  exact config.yields_findings_convert .empty

end SourceConfig

end AgentConvert
