import AgentConvert.Proofs.Collector.Blocks
import AgentConvert.Proofs.Collector.Findings
import AgentConvert.Proofs.Formatted.Draft
import AgentConvert.Proofs.Formatted.Fields

/-!
# Sound collectors

A collector makes a sound draft: the opaque bodies of its components become numbers, texts and
objects that a text can spell, and where an instance sends its data are inputs of blocks
(`Config.isPath_next`).
-/

namespace AgentConvert.Collector

open Argument Diagnostics

/-! ## Findings -/

theorem InstanceClass.startsApart_name (cls : InstanceClass) : startsApart cls.name = true := by
  cases cls <;> decide

theorem InstanceId.startsApart_shown (id : InstanceId) : startsApart id.shown = true :=
  startsApart_append _ (startsApart_append _ id.cls.startsApart_name)

theorem areClean_of_concern {severity : Severity} {id : InstanceId} {ds : Diagnostics}
    (h : Concern severity id ds) :
    AreClean ds := by
  intro d hd
  obtain ⟨message, ⟨rest, rfl⟩, rfl⟩ := h d hd
  exact Diagnostic.clean_of (startsApart_append rest id.startsApart_shown) severity

namespace Config

theorem areClean_pipelineFindings (config : Config) (name : String) (stages : Pipeline) :
    AreClean (config.pipelineFindings name stages) := by
  unfold pipelineFindings
  split
  · exact areClean_flatMap fun cls _ => areClean_map fun name _ => Diagnostic.clean_of
      (by simp (disch := decide) only [String.append_assoc, startsApart_append]) _
  · exact areClean_cons.2 ⟨Diagnostic.clean_of
      (by simp (disch := decide) only [String.append_assoc, startsApart_append]) _, areClean_nil⟩

theorem areClean_planFindings (config : Config) : AreClean config.planFindings := by
  simp only [planFindings, areClean_append]
  refine ⟨⟨⟨areClean_flatMap fun e _ => config.areClean_pipelineFindings e.1 e.2, ?_⟩, ?_⟩, ?_⟩
  · exact areClean_flatMap fun cls _ => areClean_map fun name _ => Diagnostic.clean_of
      (startsApart_append _ (startsApart_append _ (startsApart_append _ cls.startsApart_name))) _
  · exact areClean_map fun name _ => Diagnostic.clean_of
      (by simp (disch := decide) only [String.append_assoc, startsApart_append]) _
  · exact areClean_map fun name _ => Diagnostic.clean_of
      (by simp (disch := decide) only [String.append_assoc, startsApart_append]) _

end Config

/-- A body that cannot be decoded is no block that cannot be built. -/
theorem opensApart_undecodable : OpensApart "failed to decode " :=
  ⟨"failed to decode".toList, by decide, by decide, by decide⟩

theorem Fate.areClean_findings {registry : Registry} {id : InstanceId} {body : Json} :
    AreClean ((Fate.of registry id body).findings id) := by
  unfold Fate.of
  split
  · exact areClean_cons.2 ⟨Diagnostic.clean_of
      (by simp (disch := decide) only [String.append_assoc, startsApart_append]) _, areClean_nil⟩
  · split
    · refine areClean_cons.2 ⟨Diagnostic.not_reportsFailure ?_ _, areClean_nil⟩
      exact ((opensApart_undecodable.append _).append _).append _
    · dsimp only
      split
      · exact areClean_of_concern (Converter.concern_faults _ id _)
      · exact areClean_of_concern (Converter.concern_faults _ id _)

theorem Accepted.areClean_report (w : Wiring) (a : Accepted) (label : String) :
    AreClean (a.report w label) := by
  rw [report, areClean_append]
  refine ⟨areClean_of_concern (Converter.concern_losses w a.id a.settings), ?_⟩
  exact areClean_cons.2 ⟨Diagnostic.clean_of
    (by simp (disch := decide) only [String.append_assoc, startsApart_append]) _, areClean_nil⟩

/-! ## Blocks -/

theorem SourceKind.isReference_component (kind : SourceKind) :
    IsReference kind.component.segments := by
  cases kind <;> decide

namespace Config

variable {registry : Registry} {config : Config}

theorem isPath_next {id : InstanceId} {signal : Signal} :
    ∀ path ∈ (config.wired registry).next id signal, IsPath path := by
  intro path h
  simp only [Wiring.next, List.mem_filterMap, Option.bind_eq_some_iff, Option.map_eq_some_iff] at h
  obtain ⟨target, -, r, hr, kind, hkind, rfl⟩ := h
  obtain ⟨e, he, -, rfl⟩ := of_instance?_wired hr
  have hinput : e.1.kind.component = kind := SourceKind.component_of_input? hkind
  have hlabel := isIdentifier_labels e.2 (List.of_mem_zip he).2
  exact isPath_exportPath (hinput ▸ e.1.kind.isReference_component) hlabel (by decide)

theorem wellFormed_block {e : Accepted × String} (he : e ∈ config.labelled registry) :
    (e.1.block (config.wired registry) e.2).statement.WellFormed := by
  have hparts := Accepted.areParts_arguments
    (isFinite_of_mem_accepted (List.of_mem_zip he).1) (config.wired registry)
  have hnamed := e.1.settings.areNamed_arguments
    ((config.wired registry).isNamed_output e.1.id e.1.settings.signals)
  have hrefs : ∀ path ∈ e.1.references (config.wired registry), IsPath path := by
    intro path hpath
    obtain ⟨signal, -, hnext⟩ := List.mem_flatMap.1 hpath
    exact isPath_next path hnext
  have hbody := wellFormed_parts_uses (g := .error) (fun _ _ => rfl) hrefs
    (fun _ hh => absurd hh (by simp)) hparts hnamed
  exact ⟨e.1.kind.isNamed_component, hbody⟩

theorem isSound_convert (registry : Registry) (config : Config) :
    (config.convert registry .empty).1.IsSound := by
  have hlogging : (Draft.ofOption (Draft.block (.ofDotted "logging") "")
      config.service.telemetry.logs.logging?).IsSound := by
    refine Draft.isSound_ofOption fun args hargs => ?_
    obtain ⟨fields, rfl, hparts⟩ := TelemetryLogs.logging?_fields hargs
    exact Draft.isSound_block (by decide) (by simp) hparts (TelemetryLogs.areNamed_logging? hargs) _
  have hfates : AreClean ((config.fates registry).flatMap fun e => e.2.findings e.1) := by
    refine areClean_flatMap fun e he => ?_
    obtain ⟨id, -, hid⟩ := List.mem_filterMap.1 he
    obtain ⟨body, -, rfl⟩ := Option.map_eq_some_iff.1 hid
    exact Fate.areClean_findings
  rw [convert_eq]
  simp only [Draft.isSound_append, Draft.isSound_report]
  refine ⟨⟨⟨config.areClean_planFindings, hlogging⟩, hfates⟩, ⟨?_, ?_⟩⟩
  · exact List.forall_mem_map.2 fun e he => wellFormed_block he
  · exact areClean_flatMap fun e _ => e.1.areClean_report _ _

end Config

end AgentConvert.Collector
