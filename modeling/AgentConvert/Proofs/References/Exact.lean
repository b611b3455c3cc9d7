import AgentConvert.Proofs.Component
import AgentConvert.Proofs.Document.Addresses

/-!
# What the reference check reports

A reference dangles if its first segment is that of the name of a labeled block and nothing it
starts with is the name and label of one (`References.Dangles`). In a document whose blocks are
named and labeled by identifiers the check compares dotted texts, yet reports precisely the
references that dangle, each text once and in the order in which they first stand in the document.
-/

namespace AgentConvert

/-! ## Dotted texts -/

theorem split_append_dot (cs rest word : List Char) :
    dotted.split (cs ++ '.' :: rest) word = dotted.split cs word ++ dotted.split rest [] := by
  induction cs generalizing word with
  | nil => simp [dotted.split]
  | cons c cs ih =>
    rw [List.cons_append, dotted.split, dotted.split]
    split
    · rw [ih, List.cons_append]
    · rw [ih]

/-- The segments of a dotted text are those of the texts it was made of. -/
theorem dotted_dottedName_flatMap {segments : List String} (hne : segments ≠ []) :
    dotted (dottedName segments) = segments.flatMap dotted := by
  induction segments with
  | nil => exact absurd rfl hne
  | cons s rest ih =>
    cases rest with
    | nil => simp [dottedName]
    | cons t rest =>
      have hlist : (dottedName (s :: t :: rest)).toList =
          s.toList ++ '.' :: (dottedName (t :: rest)).toList := by
        simp [dottedName, String.intercalate_cons_cons]
      rw [List.flatMap_cons, ← ih (by simp), dotted, hlist, split_append_dot, dotted, dotted]

theorem split_ne_nil (cs word : List Char) : dotted.split cs word ≠ [] := by
  induction cs generalizing word with
  | nil => simp [dotted.split]
  | cons c cs ih =>
    rw [dotted.split]
    split
    · exact List.cons_ne_nil _ _
    · exact ih _

theorem dottedName_split (cs word : List Char) :
    dottedName (dotted.split cs word) = String.ofList (word.reverse ++ cs) := by
  induction cs generalizing word with
  | nil => simp [dotted.split, dottedName]
  | cons c cs ih =>
    rw [dotted.split]
    split
    · rename_i hc
      obtain ⟨t, rest, hrest⟩ := List.exists_cons_of_ne_nil (split_ne_nil cs [])
      have hcs := ih []
      rw [hrest, dottedName] at hcs
      rw [hrest, dottedName, String.intercalate_cons_cons, hcs, beq_iff_eq.1 hc]
      apply String.toList_inj.1
      simp
    · rw [ih]
      simp

/-- The segments of a text make the text. -/
theorem dottedName_dotted (s : String) : dottedName (dotted s) = s := by
  rw [dotted, dottedName_split]
  simp

theorem dotted_of_not_mem {s : String} (h : '.' ∉ s.toList) : dotted s = [s] := by
  rw [dotted, split_word h]
  simp

theorem flatMap_dotted_of_not_mem {segments : List String} (h : ∀ s ∈ segments, '.' ∉ s.toList) :
    segments.flatMap dotted = segments := by
  induction segments with
  | nil => rfl
  | cons s rest ih =>
    rw [List.flatMap_cons, dotted_of_not_mem (h s (List.mem_cons_self ..)),
      ih fun t ht => h t (List.mem_cons_of_mem _ ht), List.singleton_append]

/-! ## First occurrences -/

/-- Of a list that is sorted by places, the texts without repetitions come in the order of their
first places. -/
theorem pairwise_eraseDups_of_sorted {α : Type} [DecidableEq α] {list : List (Address × α)}
    (h : list.Pairwise fun a b => a.1 < b.1) :
    (list.map Prod.snd).eraseDups.Pairwise fun s t =>
      ∃ a, (a, s) ∈ list ∧ ∀ b, (b, t) ∈ list → a < b := by
  match list with
  | [] => exact .nil
  | (a, s) :: list =>
    obtain ⟨hhead, htail⟩ := List.pairwise_cons.1 h
    have hfilter : (list.map Prod.snd).filter (fun t => !t == s) =
        (list.filter fun e => !e.2 == s).map Prod.snd := List.filter_map ..
    rw [List.map_cons, List.eraseDups_cons, hfilter]
    have ih := pairwise_eraseDups_of_sorted (htail.filter fun e => !e.2 == s)
    -- what is left after the first text is not that text
    have hne : ∀ t ∈ ((list.filter fun e => !e.2 == s).map Prod.snd).eraseDups, t ≠ s := by
      intro t ht
      obtain ⟨e, he, rfl⟩ := List.mem_map.1 (List.mem_eraseDups.1 ht)
      simpa using (List.mem_filter.1 he).2
    have hmem : ∀ b t, t ≠ s → (b, t) ∈ (a, s) :: list → (b, t) ∈ list := by
      intro b t hts hb
      exact (List.mem_cons.1 hb).resolve_left fun heq => hts (Prod.mk.inj heq).2
    refine List.pairwise_cons.2 ⟨fun t ht => ?_, ih.imp_of_mem ?_⟩
    · exact ⟨a, List.mem_cons_self .., fun b hb => hhead _ (hmem b t (hne t ht) hb)⟩
    · rintro t u - hu ⟨b, hb, hbefore⟩
      refine ⟨b, List.mem_cons_of_mem _ (List.mem_filter.1 hb).1, fun c hc => hbefore c ?_⟩
      exact List.mem_filter.2 ⟨hmem c u (hne u hu) hc, by simpa using hne u hu⟩
termination_by list.length
decreasing_by
  exact Nat.lt_succ_of_le (List.length_filter_le ..)

/-! ## What dangles -/

/-- Whether segments are the name and the label of the block. -/
def Block.Names (b : Block) (segments : List String) : Prop :=
  b.name ≠ [] ∧ ∃ label, b.label = some label ∧ segments = b.name ++ [label]

/-- Whether the name of the block starts with a segment, and the block has a label. -/
def Block.Leads (b : Block) (first : String) : Prop :=
  b.label.isSome ∧ b.name.head? = some first

/-- Whether a block that has a label is named and labeled by identifiers. -/
def Block.IsNamed (b : Block) : Prop :=
  ∀ label, b.label = some label → isIdentifier label = true ∧ ∀ s ∈ b.name, isIdentifier s = true

instance (b : Block) : Decidable b.IsNamed :=
  inferInstanceAs (Decidable (∀ label ∈ b.label, isIdentifier label = true ∧ _))

theorem Block.Names.dotted_dottedName {b : Block} {segments : List String} (hb : b.IsNamed)
    (h : b.Names segments) : dotted (dottedName segments) = segments := by
  obtain ⟨-, label, hlabel, rfl⟩ := h
  obtain ⟨hl, hname⟩ := hb label hlabel
  refine AgentConvert.dotted_dottedName (by simp) fun s hs => ?_
  rcases List.mem_append.1 hs with hs | hs
  · exact hname s hs
  · rwa [List.mem_singleton.1 hs]

/-- Dotted texts are the same if the segments are, up to dots in them. -/
theorem Block.Names.dottedName_eq_iff {b : Block} {segments start : List String} (hb : b.IsNamed)
    (h : b.Names segments) (hne : start ≠ []) :
    dottedName start = dottedName segments ↔ start.flatMap dotted = segments := by
  rw [← dotted_dottedName_flatMap hne]
  constructor
  · intro heq
    rw [heq, h.dotted_dottedName hb]
  · intro heq
    rw [← heq, dottedName_dotted]

namespace References

/-- Whether a path starts as a labeled block does, and nothing it starts with and goes on from is
the name and the label of one. A segment of the path that has dots counts as several. -/
def Dangles (body : Body) (path : List String) : Prop :=
  (∃ b ∈ Body.blocks body, ∃ first, path.head? = some first ∧ b.Leads first) ∧
    ¬∃ b ∈ Body.blocks body, ∃ start, start <+: path ∧ start ≠ path ∧
      b.Names (start.flatMap dotted)

/-- Whether a reference that dangles stands at an address and reads `text`. -/
def DanglesAt (body : Body) (text : String) (address : Address) : Prop :=
  ∃ path, Body.at? address body = some (.path path) ∧ dottedName path = text ∧ Dangles body path

variable {body : Body}

theorem mem_namespaces {first : String} :
    first ∈ namespaces body ↔ ∃ b ∈ Body.blocks body, b.Leads first := by
  simp only [namespaces, List.mem_filterMap, Option.bind_eq_some_iff, Block.Leads,
    Option.isSome_iff_exists, exists_and_right]

theorem mem_components {text : String} :
    text ∈ components body ↔
      ∃ b ∈ Body.blocks body, ∃ segments, b.Names segments ∧ dottedName segments = text := by
  simp only [components, List.mem_filterMap, Option.bind_eq_some_iff]
  refine exists_congr fun b => and_congr_right fun _ => ?_
  constructor
  · rintro ⟨label, hlabel, htext⟩
    split at htext
    · exact absurd htext (by simp)
    · rename_i hname
      have hne : b.name ≠ [] := fun h => hname (List.isEmpty_iff.2 h)
      refine ⟨b.name ++ [label], ⟨hne, label, hlabel, rfl⟩, ?_⟩
      rw [dottedName_append hne]
      exact Option.some.inj htext
  · rintro ⟨segments, ⟨hne, label, hlabel, rfl⟩, rfl⟩
    refine ⟨label, hlabel, ?_⟩
    rw [if_neg fun h => hne (List.isEmpty_iff.1 h), dottedName_append hne]

/-- What is the name and the label of a block takes two segments or more. -/
theorem two_le_length_of_names {b : Block} {start : List String} {first : String}
    (h : b.Names (start.flatMap dotted)) (hfirst : ∀ s, start.head? = some s → s = first)
    (hdot : '.' ∉ first.toList) : 2 ≤ start.length := by
  obtain ⟨hne, label, -, heq⟩ := h
  have hlen : 2 ≤ (start.flatMap dotted).length := by
    have := List.length_pos_iff.2 hne
    rw [heq, List.length_append, List.length_singleton]
    omega
  match start with
  | [] => exact absurd hlen (by simp)
  | [s] =>
    obtain rfl := hfirst s rfl
    rw [List.flatMap_cons, dotted_of_not_mem hdot] at hlen
    exact absurd hlen (by simp)
  | _ :: _ :: _ => simp

/-- The comparison of dotted texts finds the blocks that a path starts with. -/
theorem resolves_iff (h : ∀ b ∈ Body.blocks body, b.IsNamed) {first : String} {rest : List String}
    (hdot : '.' ∉ first.toList) :
    resolves (components body) (first :: rest) = true ↔
      ∃ b ∈ Body.blocks body, ∃ start, start <+: first :: rest ∧ start ≠ first :: rest ∧
        b.Names (start.flatMap dotted) := by
  simp only [resolves, List.any_eq_true, List.mem_range, Bool.and_eq_true, decide_eq_true_eq,
    List.contains_iff_mem, mem_components]
  constructor
  · rintro ⟨n, hn, htwo, b, hb, segments, hnames, htext⟩
    have hne : (first :: rest).take n ≠ [] := by
      rw [Ne, List.take_eq_nil_iff]
      simp; omega
    have hflat := (hnames.dottedName_eq_iff (h b hb) hne).1 htext.symm
    refine ⟨b, hb, _, List.take_prefix n _, fun heq => ?_, hflat ▸ hnames⟩
    have := congrArg List.length heq
    rw [List.length_take] at this
    omega
  · rintro ⟨b, hb, start, hstart, hneq, hnames⟩
    have htwo : 2 ≤ start.length := by
      refine two_le_length_of_names hnames (fun s hs => ?_) hdot
      obtain ⟨more, hmore⟩ := hstart
      rw [List.head?_eq_some_iff] at hs
      obtain ⟨tail, rfl⟩ := hs
      exact (List.cons.inj hmore).1
    have hlt : start.length < (first :: rest).length :=
      Nat.lt_of_le_of_ne hstart.length_le fun hlen => hneq (hstart.eq_of_length hlen)
    refine ⟨start.length, hlt, htwo, b, hb, _, hnames, ?_⟩
    rw [← List.prefix_iff_eq_take.1 hstart]
    exact ((hnames.dottedName_eq_iff (h b hb) (List.ne_nil_of_length_pos (by omega))).2 rfl).symm

/-- The check tells the paths that dangle from those that do not. -/
theorem dangles_iff (h : ∀ b ∈ Body.blocks body, b.IsNamed) (path : List String) :
    (known body).dangles path = true ↔ Dangles body path := by
  cases path with
  | nil => simp [Known.dangles, Dangles]
  | cons first rest =>
    simp only [Known.dangles, List.head?_cons, known, Bool.and_eq_true, List.contains_iff_mem,
      mem_namespaces, Bool.not_eq_true', Dangles, Option.some.injEq, exists_eq_left']
    refine and_congr_right fun ⟨b, hb, hlabel, hfirst⟩ => ?_
    obtain ⟨label, hlabel⟩ := Option.isSome_iff_exists.1 hlabel
    have hdot := not_mem_dot ((h b hb label hlabel).2 first (List.mem_of_mem_head? hfirst))
    rw [← resolves_iff h hdot, Bool.not_eq_true]

/-! ## The report -/

/-- The text of a reference that the check reports. -/
def reported? (k : Known) : Expr → Option String
  | .path segments => if k.dangles segments then some (dottedName segments) else none
  | _ => none

theorem reported?_eq_some {k : Known} {e : Expr} {text : String} :
    reported? k e = some text ↔
      ∃ path, e = .path path ∧ dottedName path = text ∧ k.dangles path = true := by
  cases e with
  | path segments =>
    rw [reported?, Option.ite_none_right_eq_some, Option.some.injEq, and_comm]
    simp
  | _ => simp [reported?]

theorem dangling_eq :
    dangling body = ((exprsOfBody body).filterMap (reported? (known body))).eraseDups := by
  rw [dangling, paths, List.filter_filterMap, List.map_filterMap]
  congr 2
  funext e
  cases e with
  | path segments =>
    cases hk : (known body).dangles segments <;> simp [reported?, hk, and_assoc]
  | _ => rfl

/-- The references that the check finds, before it drops repetitions, by address. -/
theorem exists_index_dangling (h : ∀ b ∈ Body.blocks body, b.IsNamed) :
    ∃ index : List (Address × String),
      index.map Prod.snd = (exprsOfBody body).filterMap (reported? (known body)) ∧
        index.Pairwise (fun a b => a.1 < b.1) ∧
          ∀ address text, (address, text) ∈ index ↔ DanglesAt body text address := by
  obtain ⟨index, hindex, hsorted, hmem⟩ := Body.exists_index body
  refine ⟨index.filterMap fun e => (reported? (known body) e.2).map (e.1, ·), ?_, ?_,
    fun address text => ?_⟩
  · rw [← hindex, List.map_filterMap, List.filterMap_map]
    congr 1
    funext e
    simp [Function.comp_def]
  · refine List.pairwise_filterMap.2 (hsorted.imp ?_)
    rintro a b hlt c hc d hd
    obtain ⟨s, -, rfl⟩ := Option.map_eq_some_iff.1 hc
    obtain ⟨t, -, rfl⟩ := Option.map_eq_some_iff.1 hd
    exact hlt
  · rw [List.mem_filterMap]
    constructor
    · rintro ⟨⟨a, e⟩, he, hsome⟩
      obtain ⟨s, hs, heq⟩ := Option.map_eq_some_iff.1 hsome
      obtain ⟨rfl, rfl⟩ := Prod.mk.inj heq
      obtain ⟨path, rfl, htext, hdangles⟩ := reported?_eq_some.1 hs
      exact ⟨path, (hmem _ _).1 he, htext, (dangles_iff h path).1 hdangles⟩
    · rintro ⟨path, hat, htext, hdangles⟩
      have hsome := reported?_eq_some.2 ⟨path, rfl, htext, (dangles_iff h path).2 hdangles⟩
      exact ⟨(address, .path path), (hmem _ _).2 hat, by rw [hsome]; rfl⟩

/-- For a path without dots in its segments, what it starts with is compared segment by segment. -/
theorem dangles_of_not_mem_dot {path : List String} (h : ∀ s ∈ path, '.' ∉ s.toList) :
    Dangles body path ↔
      (∃ b ∈ Body.blocks body, ∃ first, path.head? = some first ∧ b.Leads first) ∧
        ¬∃ b ∈ Body.blocks body, ∃ start, start <+: path ∧ start ≠ path ∧ b.Names start := by
  have hflat : ∀ start, start <+: path → start.flatMap dotted = start := fun start hstart =>
    flatMap_dotted_of_not_mem fun s hs => h s (hstart.subset hs)
  refine and_congr_right fun _ => not_congr <| exists_congr fun b => and_congr_right fun _ => ?_
  refine exists_congr fun start => and_congr_right fun hstart => ?_
  rw [hflat start hstart]

/-- In a document whose blocks are named and labeled by identifiers the check reports, as warnings
and each text once, the references that dangle, and no others; they come in the order in which they
first stand in the document. A path whose segments have no dots dangles if it starts as a labeled
block does, and no name and label of one is a proper prefix of it. -/
theorem check_exact (h : ∀ b ∈ Body.blocks body, b.IsNamed) :
    ∃ texts : List String, check body = texts.map (fun text => .warning
        ("reference " ++ text ++ " does not resolve to a component in the document")) ∧
      texts.Nodup ∧
      (∀ text, text ∈ texts ↔ ∃ address, DanglesAt body text address) ∧
      (texts.Pairwise fun s t =>
        ∃ a, DanglesAt body s a ∧ ∀ b, DanglesAt body t b → a < b) ∧
      ∀ path, (∀ s ∈ path, '.' ∉ s.toList) → (Dangles body path ↔
        (∃ b ∈ Body.blocks body, ∃ first, path.head? = some first ∧ b.Leads first) ∧
          ¬∃ b ∈ Body.blocks body, ∃ start, start <+: path ∧ start ≠ path ∧ b.Names start) := by
  obtain ⟨index, hindex, hsorted, hmem⟩ := exists_index_dangling h
  have horder : (dangling body).Pairwise fun s t =>
      ∃ a, DanglesAt body s a ∧ ∀ b, DanglesAt body t b → a < b := by
    rw [dangling_eq, ← hindex]
    refine (pairwise_eraseDups_of_sorted hsorted).imp ?_
    rintro s t ⟨a, ha, hbefore⟩
    exact ⟨a, (hmem a s).1 ha, fun b hb => hbefore b ((hmem b t).2 hb)⟩
  refine ⟨dangling body, rfl, ?_, fun text => ?_, horder, fun path => dangles_of_not_mem_dot⟩
  · refine horder.imp ?_
    rintro s _ ⟨a, ha, hbefore⟩ rfl
    exact List.lt_irrefl a (hbefore a ha)
  · rw [dangling_eq, ← hindex, List.mem_eraseDups, List.mem_map]
    constructor
    · rintro ⟨⟨a, s⟩, hs, rfl⟩
      exact ⟨a, (hmem a s).1 hs⟩
    · rintro ⟨a, ha⟩
      exact ⟨(a, text), (hmem a text).2 ha, rfl⟩

/-- A document in which an array, an object in a call and a nested block have references. -/
def scrapedDocument : Body :=
  [.block ["prometheus", "remote_write"] (some "default") [],
    .block ["prometheus", "scrape"] (some "node")
      [.attribute "targets" (.call ["concat"] [.object [("a", .path ["env", "b"])],
          .path ["prometheus", "remote_write", "default"]]),
        .block ["output"] none
          [.attribute "forward_to" (.array [.path ["prometheus", "remote_write", "gone", "receiver"],
            .path ["prometheus", "remote_write", "default", "receiver"],
            .path ["prometheus", "remote_write", "default"]])]]]

theorem check_exact_scraped :
    (∀ b ∈ Body.blocks scrapedDocument, b.IsNamed) ∧
      ∃ texts : List String, check scrapedDocument = texts.map (fun text => .warning
          ("reference " ++ text ++ " does not resolve to a component in the document")) ∧
        ∀ text, text ∈ texts ↔ ∃ address, DanglesAt scrapedDocument text address := by
  have hnamed : ∀ b ∈ Body.blocks scrapedDocument, b.IsNamed := by decide
  obtain ⟨texts, hcheck, -, hmem, -⟩ := check_exact hnamed
  exact ⟨hnamed, texts, hcheck, hmem⟩

/-- A document whose one reference has a dot in a segment. -/
def dottedDocument : Body :=
  [.block ["a", "b"] (some "c") [.attribute "x" (.path ["a", "b.c", "d"])]]

/-- A segment with a dot counts as several. The reference reads like one to a field of the block and
is not reported, though no name and label of a block is a proper prefix of its segments. -/
theorem check_dottedDocument :
    (∀ b ∈ Body.blocks dottedDocument, b.IsNamed) ∧
      Body.at? [0, 0] dottedDocument = some (.path ["a", "b.c", "d"]) ∧
      (∃ b ∈ Body.blocks dottedDocument, b.Leads "a") ∧
      (¬∃ b ∈ Body.blocks dottedDocument, ∃ start, start <+: ["a", "b.c", "d"] ∧
        start ≠ ["a", "b.c", "d"] ∧ b.Names start) ∧
      check dottedDocument = [] := by
  refine ⟨by decide, rfl, ⟨_, List.mem_singleton_self _, rfl, rfl⟩, ?_, by decide⟩
  rintro ⟨b, hb, start, hstart, -, -, label, hlabel, rfl⟩
  obtain rfl := List.mem_singleton.1 hb
  obtain rfl : label = "c" := (Option.some.inj hlabel).symm
  exact absurd hstart (by decide)

end References

end AgentConvert
