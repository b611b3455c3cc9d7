import AgentConvert.Proofs.Embedding.Logs
import AgentConvert.Proofs.Embedding.Renamed

/-!
# Embedded log shippers and log shippers of their own

A log shipper that an agent embeds is converted as the configuration that it stands for, up to the
labels that are handed out (`LogsInstance.yields_renamed`). So an agent with nothing but logs says
what is said about its log shippers one after the other, and its document consists of theirs, each
with new labels (`SourceConfig.convert_embedded`).
-/

namespace AgentConvert

open LogShipper

/-- Whether a document is another one with new labels. -/
def Body.IsRenamed (body body' : Body) : Prop := ∃ ρ : Renaming, body' = body.rename ρ

/-! ## One log shipper -/

/-- The document of a log shipper on its own. -/
theorem SourceConfig.blocks_logShipper (registry : Collector.Registry) (config : LogShipper.Config)
    (hlogging : config.server.logging? = none) :
    ((logShipper config).standalone registry).blocks =
      (config.convertJobs "" .empty).1.blocks := by
  show (Draft.report _ ++ Draft.ofOption _ config.server.logging? ++ _).blocks = _
  rw [hlogging]
  rfl

/-- Two runs of one configuration end in the same document, up to the labels. -/
theorem LogShipper.Config.isRenamed_convertJobs (config : LogShipper.Config)
    (labelBase labelBase' : String) (ls ls' : Labels) :
    (config.convertJobs labelBase ls).1.document.IsRenamed
      (config.convertJobs labelBase' ls').1.document := by
  obtain ⟨ss, hconfig, hlabelled, hblocks, hlabels⟩ := config.delivers_convertJobs labelBase ls
  obtain ⟨ts, hconfig', hlabelled', hblocks', hlabels'⟩ :=
    config.delivers_convertJobs labelBase' ls'
  obtain ⟨s, rfl, hs⟩ := List.map_eq_singleton_iff.1 hconfig
  obtain ⟨t, rfl, ht⟩ := List.map_eq_singleton_iff.1 hconfig'
  rw [List.flatMap_singleton] at hblocks hblocks' hlabels hlabels'
  obtain ⟨ρ, hρ⟩ := Shipment.exists_renaming (hlabelled s (List.mem_singleton_self s))
    (hlabelled' t (List.mem_singleton_self t)) (hs.trans ht.symm) hlabels.nodup hlabels'.nodup
  refine ⟨ρ, ?_⟩
  rw [Draft.document, Draft.document, hblocks, hblocks', ← hρ]
  exact (Body.rename_statements s.blocks).symm

/-! ## All log shippers of an agent -/

/-- Whether an embedded log shipper stands for a configuration: its own settings, with the clients
and a file for positions that all share where it has none itself. -/
structure Agent.LogsInstance.StandsFor (s : Agent.LogsSection) (i : Agent.LogsInstance)
    (config : LogShipper.Config) : Prop where
  clients : i.clients ≠ [] → config.clients = i.clients
  sharedClients : i.clients = [] → config.clients = s.defaults.clients
  filename : ∀ file ∈ i.positions.filename, config.positions.filename = some file
  /-- The file is one in the shared directory, whose name may end in slashes. -/
  sharedFilename : i.positions.filename = none →
    (s.positionsDirectory = none → config.positions.filename = none) ∧
    ∀ directory ∈ s.positionsDirectory, ∃ (base : String) (slashes : Nat),
      directory = base ++ String.ofList (List.replicate slashes '/') ∧
      base.toList.getLast? ≠ some '/' ∧
      config.positions.filename = some (base ++ "/" ++ i.name ++ ".yml")
  positions : { config.positions with filename := i.positions.filename } = i.positions
  jobs : config.jobs = i.jobs
  target : config.target = i.target
  limits : config.limits = i.limits
  /-- All other settings are the usual ones. -/
  others : config.server = {} ∧ config.tracing = none

theorem Agent.LogsInstance.standsFor_standalone (s : Agent.LogsSection) (i : Agent.LogsInstance) :
    i.StandsFor s (i.standalone s) where
  clients h := if_neg (by simpa using h)
  sharedClients h := if_pos (by simpa using h)
  filename file hfile := by rw [standalone, Option.mem_def.1 hfile]; rfl
  sharedFilename h := by
    rw [standalone, h]
    refine ⟨fun hnone => by rw [hnone]; rfl, fun directory hdirectory => ?_⟩
    obtain ⟨slashes, hslashes⟩ := Text.dropEndWhile_append_replicate '/' directory.toList
    refine ⟨String.ofList (Text.dropEndWhile (· == '/') directory.toList), slashes, ?_, ?_, ?_⟩
    · rw [← String.ofList_append, hslashes, String.ofList_toList]
    · rw [String.toList_ofList]
      exact fun hlast => by simpa using Text.getLast?_dropEndWhile _ _ _ hlast
    · rw [Option.mem_def.1 hdirectory]
      rfl
  positions := rfl
  jobs := rfl
  target := rfl
  limits := rfl
  others := ⟨rfl, rfl⟩

/-- The configurations that the embedded log shippers stand for. -/
def Agent.LogsSection.shippers (s : Agent.LogsSection) : List SourceConfig :=
  s.instances.map fun i => .logShipper (i.standalone s)

/-- A log shipper comes to its document on its own, renamed. -/
theorem Agent.LogsInstance.yields_renamed (registry : Collector.Registry) (s : Agent.LogsSection)
    (i : Agent.LogsInstance) :
    (i.convert s).Yields fun d =>
      ((SourceConfig.logShipper (i.standalone s)).standalone registry).document.IsRenamed
        d.document := by
  intro ls
  rw [Draft.document, SourceConfig.blocks_logShipper registry (i.standalone s) rfl]
  exact (i.standalone s).isRenamed_convertJobs "" (labelOfParts ["logs", i.name]) .empty ls

/-- Drafts that are renamed documents one by one are put together from these. -/
theorem SourceConfig.exists_parts (registry : Collector.Registry) {cs : List SourceConfig}
    {ds : List Draft}
    (h : List.Forall₂ (fun c d => (c.standalone registry).document.IsRenamed d.document) cs ds) :
    ∃ parts : List (Body × Renaming),
      List.Forall₂ (fun c part => Format.Encodes (c.convert registry).document part.1) cs parts ∧
      (Draft.concat ds).document = parts.flatMap fun part => part.1.rename part.2 := by
  rw [Draft.document_concat]
  induction h with
  | nil => exact ⟨[], .nil, rfl⟩
  | @cons c d cs ds hd _ ih =>
    obtain ⟨ρ, hρ⟩ := hd
    obtain ⟨parts, hparts, hdocument⟩ := ih
    refine ⟨((c.standalone registry).document, ρ) :: parts,
      .cons (c.encodes_convert registry) hparts, ?_⟩
    rw [List.flatMap_cons, List.flatMap_cons, hρ, hdocument]

/-- An agent with nothing but logs agrees with the configurations that its log shippers stand for:
what is said is what is said about each of them, and the document consists of theirs, each with new
labels for its jobs and for the blocks that write to its clients. -/
theorem SourceConfig.convert_embedded (registry : Collector.Registry) (s : Agent.LogsSection) :
    let embedded := (agent { logs := some s }).convert registry
    List.Forall₂ (fun i c => ∃ config, c = .logShipper config ∧ i.StandsFor s config)
      s.instances s.shippers ∧
    embedded.findings = s.shippers.flatMap (fun c => (c.convert registry).findings) ∧
    ∃ parts : List (Body × Renaming),
      List.Forall₂ (fun c part => Format.Encodes (c.convert registry).document part.1)
        s.shippers parts ∧
      Format.Encodes embedded.document (parts.flatMap fun part => part.1.rename part.2) := by
  intro embedded
  refine ⟨?_, ?_, ?_⟩
  · rw [Agent.LogsSection.shippers, List.forall₂_map_right_iff, List.forall₂_same]
    exact fun i _ => ⟨_, rfl, i.standsFor_standalone s⟩
  · have hembedded : embedded.findings =
        ((agent {}).convert registry).findings ++ s.instances.flatMap (·.findings s) :=
      findings_logs registry {} s
    have hblank : ((agent {}).convert registry).findings = [] := by
      rw [convert_eq]
      rfl
    rw [hembedded, hblank, List.nil_append, Agent.LogsSection.shippers, List.flatMap_map]
    refine List.flatMap_congr fun i _ => ?_
    rw [findings_logShipper]
    rfl
  · have hshippers : List.Forall₂ (fun c d =>
        (c.standalone registry).document.IsRenamed d.document) s.shippers
        (s.instances.mapM (·.convert s) .empty).1 := by
      rw [Agent.LogsSection.shippers, List.forall₂_map_left_iff]
      exact Labelling.yields_forall₂_mapM (fun i _ => i.yields_renamed registry s) .empty
    obtain ⟨parts, hparts, hdocument⟩ := exists_parts registry hshippers
    refine ⟨parts, hparts, ?_⟩
    have hlogs : ((agent { logs := some s }).standalone registry).document =
        (Draft.concat (s.instances.mapM (·.convert s) .empty).1).document := by
      show (({ ({} : Agent.Config) with logs := some s }.convert .empty).1).document = _
      rw [Agent.Config.convert_logs {} s]
      rfl
    rw [← hdocument, ← hlogs]
    exact encodes_convert registry _

end AgentConvert
