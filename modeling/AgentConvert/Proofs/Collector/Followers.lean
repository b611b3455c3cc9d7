import AgentConvert.Collector.Plan
import AgentConvert.Proofs.Collector.Wiring

/-!
# What follows an instance

A pipeline sends its data through layers: all receivers, each processor in turn, all exporters
(`SignalPipeline.layers`). An instance of one layer is followed by all instances of the next one
(`links`). What the graph has downstream of an instance is what follows it in the layers of some
pipeline, each once and in the order of the first occurrence (`Config.downstream_graph`).
-/

namespace AgentConvert.Collector

/-! ## Layers -/

/-- The layers that data passes through. -/
def SignalPipeline.layers (config : Config) (p : SignalPipeline) : List (List InstanceId) :=
  p.instances config .receiver ::
    ((p.instances config .processor).map ([·]) ++ [p.instances config .exporter])

/-- The pairs of an instance in a layer and an instance in the next one. -/
def links : List (List InstanceId) → List (InstanceId × InstanceId)
  | layer :: next :: rest => (layer.flatMap fun a => next.map (a, ·)) ++ links (next :: rest)
  | _ => []

theorem mem_links {layers : List (List InstanceId)} {a b : InstanceId} : (a, b) ∈ links layers ↔
    ∃ before layer next after, layers = before ++ layer :: next :: after ∧ a ∈ layer ∧ b ∈ next := by
  constructor
  · intro h
    fun_induction links layers with
    | case1 layer next rest ih =>
      rcases List.mem_append.1 h with h | h
      · obtain ⟨a', ha, hb⟩ := List.mem_flatMap.1 h
        obtain ⟨b', hb', hpair⟩ := List.mem_map.1 hb
        obtain ⟨rfl, rfl⟩ := Prod.mk.inj hpair
        exact ⟨[], layer, next, rest, rfl, ha, hb'⟩
      · obtain ⟨before, layer', next', after, heq, hab⟩ := ih h
        exact ⟨layer :: before, layer', next', after, by rw [heq, List.cons_append], hab⟩
    | case2 => exact absurd h (by simp)
  · rintro ⟨before, layer, next, after, rfl, ha, hb⟩
    induction before with
    | nil =>
      refine List.mem_append_left _ (List.mem_flatMap.2 ⟨a, ha, ?_⟩)
      exact List.mem_map.2 ⟨b, hb, rfl⟩
    | cons first before ih =>
      cases before with
      | nil => exact List.mem_append_right _ ih
      | cons second before => exact List.mem_append_right _ ih

/-- The edges of a chain link its layers. -/
theorem SignalPipeline.chain_eq (signal : Signal) (sources processors exporters : List InstanceId) :
    chain signal sources processors exporters =
      (links (sources :: (processors.map ([·]) ++ [exporters]))).map
        fun l => ⟨l.1, signal, l.2⟩ := by
  induction processors generalizing sources with
  | nil =>
    simp only [chain, links, List.map_nil, List.nil_append, List.append_nil, List.map_flatMap,
      List.map_map]
    rfl
  | cons processor rest ih =>
    simp only [chain, links, List.map_cons, List.cons_append, List.map_append, ih, List.map_nil,
      ← List.map_eq_flatMap, List.map_map]
    rfl

theorem SignalPipeline.edges_eq (config : Config) (p : SignalPipeline) :
    p.edges config = (links (p.layers config)).map fun l => ⟨l.1, p.signal, l.2⟩ :=
  chain_eq ..

/-! ## Edges of a graph -/

/-- Where an edge leads that leaves `id` with data of a signal. -/
def Edge.target? (id : InstanceId) (signal : Signal) (e : Edge) : Option InstanceId :=
  if e.source = id ∧ e.signal = signal then some e.target else none

theorem Edge.target?_eq_some {id target : InstanceId} {signal : Signal} {e : Edge} :
    e.target? id signal = some target ↔ e = ⟨id, signal, target⟩ := by
  obtain ⟨source, signal', target'⟩ := e
  simp [target?, and_assoc]

namespace Graph

variable {id : InstanceId} {signal : Signal} {g : Graph}

theorem mem_downstream {target : InstanceId} :
    target ∈ g.downstream id signal ↔ ⟨id, signal, target⟩ ∈ g.edges := by
  show target ∈ g.edges.filterMap (Edge.target? id signal) ↔ _
  simp [List.mem_filterMap, Edge.target?_eq_some]

/-- One more edge leads on unless it is there. -/
theorem downstream_addEdge {seen : List InstanceId} (h : g.downstream id signal = seen.eraseDups)
    (e : Edge) : (g.addEdge e).downstream id signal =
      (seen ++ (e.target? id signal).toList).eraseDups := by
  have hnew : (⟨g.edges ++ [e]⟩ : Graph).downstream id signal =
      g.downstream id signal ++ (e.target? id signal).toList := by
    show (g.edges ++ [e]).filterMap (Edge.target? id signal) = _
    rw [List.filterMap_append]
    rfl
  cases htarget : e.target? id signal with
  | none =>
    rw [htarget] at hnew
    unfold addEdge
    split
    · simpa using h
    · simpa [h] using hnew
  | some target =>
    rw [htarget] at hnew
    have hmem : e ∈ g.edges ↔ target ∈ seen := by
      rw [Edge.target?_eq_some.1 htarget, ← mem_downstream, h, List.mem_eraseDups]
    rw [Option.toList_some, List.eraseDups_append]
    unfold addEdge
    split
    · rename_i he
      simp [h, List.removeAll, hmem.1 he]
    · rename_i he
      have hseen : target ∉ seen := fun ht => he (hmem.2 ht)
      simp [h, hnew, List.removeAll, hseen, List.eraseDups_cons]

/-- Edges that are added one after the other lead on in the order in which they come, each once. -/
theorem downstream_foldl_addEdge (es : List Edge) {seen : List InstanceId}
    (h : g.downstream id signal = seen.eraseDups) :
    (es.foldl addEdge g).downstream id signal =
      (seen ++ es.filterMap (Edge.target? id signal)).eraseDups := by
  induction es generalizing g seen with
  | nil => simpa using h
  | cons e es ih =>
    rw [List.foldl_cons, ih (downstream_addEdge h e), List.filterMap_cons, List.append_assoc]
    cases e.target? id signal <;> rfl

theorem downstream_ofEdges (es : List Edge) :
    (ofEdges es).downstream id signal = (es.filterMap (Edge.target? id signal)).eraseDups := by
  have hempty : empty.downstream id signal = ([] : List InstanceId).eraseDups := rfl
  exact downstream_foldl_addEdge es hempty

end Graph

/-! ## Followers -/

/-- What comes right after `id` in layers. -/
def following (id : InstanceId) (layers : List (List InstanceId)) : List InstanceId :=
  (links layers).filterMap fun l => if l.1 = id then some l.2 else none

theorem mem_following {id target : InstanceId} {layers : List (List InstanceId)} :
    target ∈ following id layers ↔ (id, target) ∈ links layers := by
  simp only [following, List.mem_filterMap, Option.ite_none_right_eq_some, Option.some.injEq]
  constructor
  · rintro ⟨⟨a, b⟩, hl, rfl, rfl⟩
    exact hl
  · exact fun h => ⟨_, h, rfl, rfl⟩

namespace SignalPipeline

theorem cls_of_mem_instances {config : Config} {p : SignalPipeline} {cls : InstanceClass}
    {id : InstanceId} (h : id ∈ p.instances config cls) : id.cls = cls := by
  obtain ⟨name, -, rfl⟩ := List.mem_map.1 h
  rfl

/-- A pipeline leads from an instance to what follows it, with its own signal only. -/
theorem filterMap_edges (config : Config) (p : SignalPipeline) (id : InstanceId)
    (signal : Signal) : (p.edges config).filterMap (Edge.target? id signal) =
      if p.signal = signal then following id (p.layers config) else [] := by
  rw [edges_eq, List.filterMap_map]
  split
  · rename_i h
    subst h
    refine congrArg (fun f => (links (p.layers config)).filterMap f) (funext fun l => ?_)
    simp [Edge.target?]
  · rename_i h
    simp [Edge.target?, h]

end SignalPipeline

namespace Config

/-- What comes right after an instance in a pipeline with a signal, in the order of the first
occurrence. -/
def followers (config : Config) (id : InstanceId) (signal : Signal) : List InstanceId :=
  ((config.signalPipelines.filter (·.signal = signal)).flatMap fun p =>
    following id (p.layers config)).eraseDups

variable {config : Config} {id target : InstanceId} {signal : Signal}

theorem nodup_followers : (config.followers id signal).Nodup := nodup_eraseDups _

theorem mem_followers : target ∈ config.followers id signal ↔
    ∃ p ∈ config.signalPipelines, p.signal = signal ∧ (id, target) ∈ links (p.layers config) := by
  simp [followers, List.mem_eraseDups, mem_following, and_assoc]

/-- Data never flows into receivers. -/
theorem cls_of_mem_followers (h : target ∈ config.followers id signal) :
    target.cls ≠ .receiver := by
  obtain ⟨p, -, -, h⟩ := mem_followers.1 h
  obtain ⟨before, layer, next, after, heq, -, htarget⟩ := mem_links.1 h
  have hnext : next ∈ (p.layers config).tail := by
    rw [heq]
    cases before <;> simp
  rw [SignalPipeline.layers, List.tail_cons] at hnext
  rcases List.mem_append.1 hnext with hnext | hnext
  · obtain ⟨processor, hprocessor, rfl⟩ := List.mem_map.1 hnext
    obtain rfl := List.mem_singleton.1 htarget
    rw [SignalPipeline.cls_of_mem_instances hprocessor]
    decide
  · obtain rfl := List.mem_singleton.1 hnext
    rw [SignalPipeline.cls_of_mem_instances htarget]
    decide

/-- The graph of the pipelines has downstream of an instance what follows it. -/
theorem downstream_graph (config : Config) (id : InstanceId) (signal : Signal) :
    config.graph.downstream id signal = config.followers id signal := by
  rw [graph, Graph.downstream_ofEdges, List.filterMap_flatMap, followers]
  refine congrArg List.eraseDups ?_
  induction config.signalPipelines with
  | nil => rfl
  | cons p pipelines ih =>
    rw [List.flatMap_cons, ih, p.filterMap_edges, List.filter_cons]
    by_cases h : p.signal = signal <;> simp [h]

end Config

end AgentConvert.Collector
