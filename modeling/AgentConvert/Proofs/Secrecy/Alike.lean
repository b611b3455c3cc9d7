import AgentConvert.Proofs.Argument.Attributes
import AgentConvert.Proofs.Argument.Nested
import AgentConvert.Proofs.Draft

/-!
# Documents that differ in secrets

Secrets feed a few attributes (`secretAttributes`), and these stand in a few blocks
(`secretBlocks`). Two documents are alike (`Body.Alike`) if they are the same but for what these
attributes hold, and these hold the texts of secrets on both sides and nothing else
(`Expr.HoldSecrets`). The relation is not reflexive: an attribute that a secret feeds has to hold
texts that are related.

Fields are alike if the parts that they stand for are (`Fields.Alike`), and drafts if their
documents are and their findings are the same (`Draft.Alike`).
-/

namespace AgentConvert

/-! ## Places of secrets -/

/-- The attributes that secrets feed. -/
def secretAttributes : List String := [
  "password", "credentials", "bearer_token", "token", "application_secret", "consumer_key",
  "api_token", "mongodb_uri", "connection_string", "data_source_names", "vsphere_password"]

/-- The blocks with these attributes, and the blocks around them. -/
def secretBlocks : List (List String) := [
  ["basic_auth"], ["authorization"], ["endpoint"],
  ["discovery", "http"], ["discovery", "consul"], ["discovery", "ovhcloud"],
  ["prometheus", "scrape"], ["prometheus", "remote_write"],
  ["prometheus", "exporter", "elasticsearch"], ["prometheus", "exporter", "github"],
  ["prometheus", "exporter", "mongodb"], ["prometheus", "exporter", "mssql"],
  ["prometheus", "exporter", "oracledb"], ["prometheus", "exporter", "postgres"],
  ["prometheus", "exporter", "snowflake"], ["prometheus", "exporter", "squid"],
  ["prometheus", "exporter", "vsphere"],
  ["loki", "source", "cloudflare"], ["loki", "write"]]

/-- How the texts of two secrets are related that feed the attribute with a given name. -/
abbrev Pairing := String → String → String → Prop

/-! ## Documents -/

/-- Whether two expressions hold the texts of secrets, one or a list. -/
inductive Expr.HoldSecrets (r : String → String → Prop) : Expr → Expr → Prop
  | text {s t : String} (h : r s t) : HoldSecrets r (.str s) (.str t)
  | texts {ss ts : List String} (h : List.Forall₂ r ss ts) :
    HoldSecrets r (.array (ss.map .str)) (.array (ts.map .str))

/-- Whether a statement is an attribute that no secret feeds, or a block without such ones. -/
def Statement.IsOpen : Statement → Prop
  | .attribute name _ => name ∉ secretAttributes
  | .block name _ _ => name ∉ secretBlocks

/-- Whether two statements are the same but for the texts of secrets, and hold these where secrets
feed them. -/
inductive Statement.Alike (R : Pairing) : Statement → Statement → Prop
  | same {s : Statement} (h : s.IsOpen) : Alike R s s
  | secret {name : String} {v w : Expr} (hname : name ∈ secretAttributes)
    (h : v.HoldSecrets (R name) w) : Alike R (.attribute name v) (.attribute name w)
  | block {name : List String} {label : Option String} {a b : Body}
    (h : List.Forall₂ (Alike R) a b) : Alike R (.block name label a) (.block name label b)

/-- Whether two bodies are alike, statement by statement. -/
def Body.Alike (R : Pairing) (a b : Body) : Prop := List.Forall₂ (Statement.Alike R) a b

variable {R : Pairing}

theorem Body.Alike.refl {body : Body} (h : ∀ s ∈ body, s.IsOpen) : Body.Alike R body body :=
  List.forall₂_same.2 fun s hs => .same (h s hs)

theorem Body.Alike.append {a b c d : Body} (h : Body.Alike R a b) (h' : Body.Alike R c d) :
    Body.Alike R (a ++ c) (b ++ d) :=
  List.rel_append h h'

/-! ## Fields -/

/-- Whether neither an attribute nor a block of this name is for secrets. -/
def IsOpenName (name : String) : Prop := name ∉ secretAttributes ∧ dotted name ∉ secretBlocks

instance : DecidablePred IsOpenName := fun name =>
  inferInstanceAs (Decidable (name ∉ secretAttributes ∧ dotted name ∉ secretBlocks))

theorem Body.attribute?_ne_none {body : Body} {name : String} {value : Expr}
    (h : .attribute name value ∈ body) : Body.attribute? body name ≠ none := by
  intro hnone
  have hvalue := List.findSome?_eq_none_iff.1 hnone _ h
  simp at hvalue

/-- What stands under an open name is open. -/
theorem Argument.isOpen_part {p : Special → Prop} {f : Special → Expr} {name : String}
    {a : Argument} (hname : IsOpenName name) (h : a.IsPart p) (ha : a.TakesName) :
    ∀ s ∈ a.part f name, s.IsOpen := by
  intro s hs
  rcases s with ⟨n, value⟩ | ⟨path, label, body⟩
  · have hn : n = name := by
      apply Classical.byContradiction
      exact fun hne => Body.attribute?_ne_none hs (attribute?_part hne a h)
    exact hn ▸ hname.1
  · have hmem : ⟨path, label, body⟩ ∈ Body.blocks (a.part f name) :=
      List.mem_filterMap.2 ⟨_, hs, rfl⟩
    have hpath : path = dotted name := ha f name _ hmem
    exact hpath ▸ hname.2

namespace Fields

variable {as bs : Fields} {name : String} {a : Argument}

/-- Whether fields are for no secrets. -/
def AreOpen (fields : Fields) : Prop := ∀ e ∈ fields, IsOpenName e.1 ∧ e.2.TakesName

theorem isOpen_parts {p : Special → Prop} {f : Special → Expr} {fields : Fields}
    (h : Argument.AreParts p fields) (ho : AreOpen fields) :
    ∀ s ∈ Argument.parts f fields, s.IsOpen := by
  induction fields with
  | nil => exact fun _ hs => absurd hs List.not_mem_nil
  | cons e fields ih =>
    obtain ⟨name, a⟩ := e
    intro s hs
    obtain ⟨hname, ha⟩ := ho _ (List.mem_cons_self ..)
    rw [Argument.parts, List.mem_append] at hs
    rcases hs with hs | hs
    · exact Argument.isOpen_part hname h.1 ha s hs
    · exact ih h.2 (fun e he => ho e (List.mem_cons_of_mem _ he)) s hs

@[simp] theorem areOpen_append : AreOpen (as ++ bs) ↔ AreOpen as ∧ AreOpen bs :=
  List.forall_mem_append

theorem areOpen_field (h : IsOpenName name) : AreOpen [(name, a)] ↔ a.TakesName := by
  simp [AreOpen, h]

end Fields

namespace Field

open Fields

variable {α : Type} {name : String}

@[simp] theorem areOpen_always {a : Argument} (h : IsOpenName name) :
    AreOpen (always name a) ↔ a.TakesName :=
  areOpen_field h

@[simp] theorem areOpen_optional {g : α → Argument} {value : Option α} (h : IsOpenName name) :
    AreOpen (optional name g value) ↔ ∀ a ∈ value, (g a).TakesName := by
  cases value with
  | none =>
    have hnone : AreOpen (optional name g none) :=
      (areOpen_field h).2 (Argument.takesName_of_isValue (p := fun _ => True) trivial)
    exact ⟨fun _ => by simp, fun _ => hnone⟩
  | some a =>
    exact (areOpen_field h).trans ⟨fun ha => by rintro b ⟨⟩; exact ha, fun ha => ha a rfl⟩

@[simp] theorem areOpen_unlessNil {g : List α → Argument} {items : List α} (h : IsOpenName name) :
    AreOpen (unlessNil name g items) ↔ (items ≠ [] → (g items).TakesName) := by
  unfold unlessNil
  cases items with
  | nil => simp [AreOpen]
  | cons a items => simpa using areOpen_field h

@[simp] theorem areOpen_unlessEmpty (d : Dictionary String) (h : IsOpenName name) :
    AreOpen (unlessEmpty name d) := by
  unfold unlessEmpty
  split
  · simp [AreOpen]
  · exact (areOpen_field h).2 (Argument.takesName_labels d)

end Field

/-- Whether two arguments stand for the same as a field with this name, but for the texts of
secrets, however a front-end renders anything else than secrets. -/
def Argument.AlikeAs (R : Pairing) (name : String) (a b : Argument) : Prop :=
  ∀ f : Special → Expr, (∀ s, f (.secret s) = .str s) →
    Body.Alike R (a.part f name) (b.part f name)

/-- Whether fields stand for the same, but for the texts of secrets. -/
def Fields.Alike (R : Pairing) (as bs : Fields) : Prop :=
  ∀ f : Special → Expr, (∀ s, f (.secret s) = .str s) →
    Body.Alike R (Argument.parts f as) (Argument.parts f bs)

namespace Argument.AlikeAs

variable {name : String}

theorem secret (hname : name ∈ secretAttributes) {s t : Secret} (h : R name s.text t.text) :
    (Argument.secret s).AlikeAs R name (.secret t) := by
  intro f hf
  show List.Forall₂ _ [Statement.attribute name (f (.secret s.text))]
    [Statement.attribute name (f (.secret t.text))]
  rw [hf, hf]
  exact .cons (.secret hname (.text h)) .nil

theorem secrets (hname : name ∈ secretAttributes) {ss ts : List Secret}
    (h : List.Forall₂ (fun s t => R name s.text t.text) ss ts) :
    (Argument.list (ss.map .secret)).AlikeAs R name (.list (ts.map .secret)) := by
  intro f hf
  have hpart : ∀ us : List Secret, (Argument.list (us.map .secret)).part f name =
      [.attribute name (.array ((us.map Secret.text).map .str))] := fun us => by
    have hany : (us.map Argument.secret).any isBlock = false := by
      simp [isBlock, Argument.secret]
    rw [part, hany, exprs_eq_map, List.map_map, List.map_map]
    have htext : expr f ∘ Argument.secret = Expr.str ∘ Secret.text := funext fun s => hf s.text
    rw [htext]
    rfl
  rw [hpart, hpart]
  have htexts : List.Forall₂ (R name) (ss.map Secret.text) (ts.map Secret.text) := by
    rwa [List.forall₂_map_left_iff, List.forall₂_map_right_iff]
  exact .cons (.secret hname (.texts htexts)) .nil

theorem blockOf {as bs : Fields} (h : Fields.Alike R as bs) :
    (Argument.blockOf as).AlikeAs R name (.blockOf bs) :=
  fun f hf => .cons (.block (h f hf)) .nil

/-- Lists of blocks that are alike one by one. -/
theorem blocks (hname : name ∉ secretAttributes) {as bs : List Argument}
    (h : List.Forall₂ (fun a b => a.isBlock = true ∧ b.isBlock = true ∧ a.AlikeAs R name b) as bs) :
    (Argument.list as).AlikeAs R name (.list bs) := by
  intro f hf
  have hitems : Body.Alike R (itemParts f name as) (itemParts f name bs) := by
    induction h with
    | nil => exact .nil
    | cons hab _ ih => exact Body.Alike.append (hab.2.2 f hf) ih
  cases h with
  | nil => exact .cons (.same hname) .nil
  | cons hab h =>
    rw [part, part, List.any_cons, List.any_cons, hab.1, hab.2.1]
    exact hitems

end Argument.AlikeAs

namespace Fields.Alike

variable {as bs cs ds : Fields} {name : String} {a b : Argument}

theorem nil : Fields.Alike R [] [] := fun _ _ => .nil

theorem of_areOpen {p : Special → Prop} (h : Argument.AreParts p as) (ho : as.AreOpen) :
    Fields.Alike R as as :=
  fun _ _ => .refl (Fields.isOpen_parts h ho)

/-- Settings that are for no secrets are alike themselves. -/
theorem same (h : Argument.AreParts (Special.Uses [] []) as := by simp)
    (ho : as.AreOpen := by simp (disch := decide)) : Fields.Alike R as as :=
  of_areOpen h ho

/-- A value may stand under the name of a block. -/
theorem value {p : Special → Prop} (hname : name ∉ secretAttributes) (h : a.IsValue p) :
    Fields.Alike R [(name, a)] [(name, a)] := by
  intro f _
  rw [Argument.parts, Argument.parts, List.append_nil, Argument.part_value name a h]
  split
  · exact .nil
  · exact .cons (.same hname) .nil

theorem append (h : Fields.Alike R as bs) (h' : Fields.Alike R cs ds) :
    Fields.Alike R (as ++ cs) (bs ++ ds) := by
  intro f hf
  rw [Argument.parts_append, Argument.parts_append]
  exact (h f hf).append (h' f hf)

theorem flatMap {α : Type} {f g : α → Fields} {items : List α}
    (h : ∀ a ∈ items, Fields.Alike R (f a) (g a)) :
    Fields.Alike R (items.flatMap f) (items.flatMap g) := by
  induction items with
  | nil => exact nil
  | cons a items ih =>
    rw [List.flatMap_cons, List.flatMap_cons]
    exact .append (h a (List.mem_cons_self ..)) (ih fun b hb => h b (List.mem_cons_of_mem _ hb))

theorem field (h : a.AlikeAs R name b) : Fields.Alike R [(name, a)] [(name, b)] := by
  intro f hf
  simpa [Argument.parts] using h f hf

theorem always (h : a.AlikeAs R name b) :
    Fields.Alike R (Field.always name a) (Field.always name b) :=
  field h

theorem optional {α : Type} {r : α → α → Prop} {g : α → Argument} {v w : Option α}
    (hg : ∀ {x y}, r x y → (g x).AlikeAs R name (g y)) (h : Option.Rel r v w) :
    Fields.Alike R (Field.optional name g v) (Field.optional name g w) := by
  cases h with
  | none => exact nil
  | some h => exact field (hg h)

theorem unlessNil {α : Type} {g : List α → Argument} {xs ys : List α}
    (hempty : xs.isEmpty = ys.isEmpty) (h : (g xs).AlikeAs R name (g ys)) :
    Fields.Alike R (Field.unlessNil name g xs) (Field.unlessNil name g ys) := by
  rw [Field.unlessNil, Field.unlessNil, ← hempty]
  split
  · exact nil
  · exact field h

end Fields.Alike

/-! ## Drafts -/

namespace Draft

/-- Whether no block of a draft is for secrets. -/
def IsOpen (d : Draft) : Prop := ∀ b ∈ d.blocks, b.name ∉ secretBlocks

variable {a b c d e : Draft} {kind : ComponentKind} {label : String}

@[simp] theorem isOpen_report (ds : Diagnostics) : (report ds).IsOpen :=
  fun _ h => absurd h List.not_mem_nil

@[simp] theorem isOpen_append : (d ++ e).IsOpen ↔ d.IsOpen ∧ e.IsOpen := by
  rw [IsOpen, blocks_append, List.forall_mem_append]
  rfl

@[simp] theorem isOpen_when {condition : Bool} :
    (Draft.when condition d).IsOpen ↔ (condition = true → d.IsOpen) := by
  cases condition <;> simp [Draft.when, IsOpen]

@[simp] theorem isOpen_blockWith {hook : Override Unit} {args : Argument}
    (h : kind.segments ∉ secretBlocks) : (blockWith hook kind label args).IsOpen := by
  unfold blockWith Block.build Block.buildWith
  cases args.toBody hook () with
  | error e => exact fun _ hb => absurd hb List.not_mem_nil
  | ok r => exact List.forall_mem_singleton.2 h

@[simp] theorem isOpen_block {args : Argument} (h : kind.segments ∉ secretBlocks) :
    (block kind label args).IsOpen :=
  isOpen_blockWith h

theorem isOpen_ofOption {α : Type} {f : α → Draft} {o : Option α} (h : ∀ a ∈ o, (f a).IsOpen) :
    (ofOption f o).IsOpen := by
  cases o with
  | none => exact fun _ hb => absurd hb List.not_mem_nil
  | some a => exact h a rfl

/-- Whether two drafts say the same and have documents that are the same but for the texts of
secrets. -/
structure Alike (R : Pairing) (d e : Draft) : Prop where
  findings : d.findings = e.findings
  document : Body.Alike R d.document e.document

namespace Alike

theorem refl (h : d.IsOpen) : d.Alike R d := by
  refine ⟨rfl, .refl fun s hs => ?_⟩
  obtain ⟨b, hb, rfl⟩ := List.mem_map.1 hs
  exact h b hb

theorem report {ds es : Diagnostics} (h : ds = es) : (Draft.report ds).Alike R (.report es) :=
  ⟨h, .nil⟩

theorem append (h : a.Alike R b) (h' : c.Alike R d) : (a ++ c).Alike R (b ++ d) := by
  refine ⟨congrArg₂ (· ++ ·) h.findings h'.findings, ?_⟩
  rw [document_append, document_append]
  exact h.document.append h'.document

theorem concat {ds es : List Draft} (h : List.Forall₂ (Draft.Alike R) ds es) :
    (Draft.concat ds).Alike R (.concat es) := by
  induction h with
  | nil => exact ⟨rfl, .nil⟩
  | cons hde _ ih => exact hde.append ih

/-- Blocks of fields that are alike. -/
theorem blockWith {p : Special → Prop} {fields fields' : Fields} {g : Special → Special.Answer}
    (hg : ∀ s, g (.secret s) = .error (.secret s)) (hp : Argument.AreParts p fields)
    (hp' : Argument.AreParts p fields') (h : Fields.Alike R fields fields') :
    (Draft.blockWith (overrideBy g) kind label (.record fields)).Alike R
      (Draft.blockWith (overrideBy g) kind label (.record fields')) := by
  rw [blockWith_eq g hp, blockWith_eq g hp']
  refine ⟨rfl, .cons (.block (h _ fun s => ?_)) .nil⟩
  rw [renderBy, hg]
  rfl

theorem block {p : Special → Prop} {fields fields' : Fields} (hp : Argument.AreParts p fields)
    (hp' : Argument.AreParts p fields') (h : Fields.Alike R fields fields') :
    (Draft.block kind label (.record fields)).Alike R (.block kind label (.record fields')) :=
  blockWith (fun _ => rfl) hp hp' h

end Alike

end Draft

end AgentConvert
