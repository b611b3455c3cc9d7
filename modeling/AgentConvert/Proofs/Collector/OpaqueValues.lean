import AgentConvert.Proofs.Argument.Attributes
import AgentConvert.Proofs.Collector.Blocks
import AgentConvert.Proofs.Collector.Document
import AgentConvert.Proofs.Document.Formatting
import AgentConvert.Proofs.Formatted.Result
import AgentConvert.Proofs.Number.Shortest
import Mathlib

/-!
# Opaque values in the document

The value of an attribute action is copied into the document without being understood. Its
expression spells it (`Expr.Spells`, `Json.spells_expr`): null is an expression of its own and no
field is dropped for it, a whole number is spelled by its digits, and any other number by a decimal
that is read as it. A number whose shortest decimal has no point may have the digits of a whole
number, so values with one expression are alike (`Json.Alike`, `Json.alike_of_expr_eq`): they may
differ in a whole number and the number nearest to it.

The body of the processor gives a value to each action. It is the value of the action that is
decoded (`AttributesProcessor.gives_value`), and the document has one nested block for each action,
in order, with the expression of its value (`AttributesProcessor.blocks_action`). The document is
read back as it was laid out, so it has the values (`Config.opaqueValue_kept`).
-/

namespace AgentConvert

open Argument

/-! ## What expressions spell -/

mutual
/-- Whether an expression spells a body. A whole number is spelled by its digits, and any other
number by a decimal to which it is the nearest one. -/
def Expr.Spells : Expr → Json → Prop
  | .null, .null => True
  | .bool a, .bool b => a = b
  | .number spelling, .int n => spelling.toInt? = some n.value
  | .number spelling, .float negative x => Binary64.read? spelling = some (.finite negative x)
  | .str s, .text t => s = t
  | .array es, .list items => Expr.SpellItems es items
  | .object es, .object fields => Expr.SpellFields es fields
  | _, _ => False

/-- Whether expressions spell bodies, one each. -/
def Expr.SpellItems : List Expr → List Json → Prop
  | [], [] => True
  | e :: es, j :: items => e.Spells j ∧ Expr.SpellItems es items
  | _, _ => False

/-- Whether the fields of an object spell those of a body, under the same names and in order. -/
def Expr.SpellFields : List (String × Expr) → List (String × Json) → Prop
  | [], [] => True
  | (key, e) :: es, (name, j) :: fields => key = name ∧ e.Spells j ∧ Expr.SpellFields es fields
  | _, _ => False
end

namespace Json

/-- The argument that a body is, null included, is never taken for one that is not there. -/
theorem isAbsent_argument (j : Json) : j.argument.isAbsent = false := by
  cases j <;> rfl

variable {f : Special → Expr}

mutual
theorem spells_expr : ∀ j : Json, (j.argument.expr f).Spells j
  | .null => trivial
  | .bool _ => rfl
  | .int n => Int.toInt?_repr n.value
  | .float negative x => Binary64.read?_text (x := .finite negative x) rfl
  | .text _ => rfl
  | .list items => spellItems_exprs items
  | .object fields => spellFields_fieldExprs fields

theorem spellItems_exprs : ∀ items : List Json,
    Expr.SpellItems (exprs f (argumentItems items)) items
  | [] => trivial
  | j :: rest => ⟨spells_expr j, spellItems_exprs rest⟩

theorem spellFields_fieldExprs : ∀ fields : List (String × Json),
    Expr.SpellFields (fieldExprs f (argumentFields fields)) fields
  | [] => trivial
  | (key, j) :: rest => by
    rw [argumentFields, fieldExprs, isAbsent_argument, if_neg Bool.false_ne_true]
    exact ⟨rfl, spells_expr j, spellFields_fieldExprs rest⟩
end

/-! ## Values with one expression -/

/-- Whether a number is the one nearest to a whole number, and so the whole number itself unless
that takes more than the bits of a mantissa. -/
structure IsNearest (n : Int) (negative : Bool) (x : Magnitude) : Prop where
  sign : negative = decide (n < 0)
  nearest : x.Attracts n.natAbs
  exact : n.natAbs ≤ 2 ^ 53 → x.mantissa * 2 ^ x.exponent = (n.natAbs : ℚ)

mutual
/-- Whether two bodies are the same, but for numbers of which one is a whole number and the other
the number nearest to it. -/
def Alike : Json → Json → Prop
  | .null, .null => True
  | .bool a, .bool b => a = b
  | .int m, .int n => m = n
  | .float negative x, .float negative' x' => negative = negative' ∧ x = x'
  | .int n, .float negative x | .float negative x, .int n => IsNearest n.value negative x
  | .text s, .text t => s = t
  | .list items, .list items' => AlikeItems items items'
  | .object fields, .object fields' => AlikeFields fields fields'
  | _, _ => False

/-- Whether bodies are alike, one by one. -/
def AlikeItems : List Json → List Json → Prop
  | [], [] => True
  | j :: rest, j' :: rest' => j.Alike j' ∧ AlikeItems rest rest'
  | _, _ => False

/-- Whether fields have the same names and bodies that are alike, in order. -/
def AlikeFields : List (String × Json) → List (String × Json) → Prop
  | [], [] => True
  | (key, j) :: rest, (key', j') :: rest' => key = key' ∧ j.Alike j' ∧ AlikeFields rest rest'
  | _, _ => False
end

theorem toString_int_injective {m n : Int} (h : toString m = toString n) : m = n := by
  have hread : (toString m).toInt? = some m := Int.toInt?_repr m
  rw [h] at hread
  exact Option.some.inj (hread.symm.trans (Int.toInt?_repr n))

theorem isNearest_of_ofInt {n : Int} {negative : Bool} {x : Magnitude}
    (h : Binary64.ofInt n = .finite negative x) : IsNearest n negative x := by
  obtain ⟨hsign, hnearest⟩ := Binary64.ofInt_eq_finite h
  refine ⟨hsign, hnearest, fun hsmall => ?_⟩
  obtain ⟨y, hy, hvalue⟩ := Magnitude.exists_ofQuotient?_eq hsmall
  have hsame : Binary64.ofInt n = .finite (n < 0) y := by
    rw [Binary64.ofInt, Binary64.ofQuotient, hy]
  rw [← (Binary64.finite.inj (h.symm.trans hsame)).2] at hvalue
  exact hvalue

/-- A whole number with the text of another number is one that this number is nearest to. -/
theorem isNearest_of_text_eq {n : Whole64} {negative : Bool} {x : Magnitude}
    (h : toString n.value = (Binary64.finite negative x).text) : IsNearest n.value negative x := by
  have hread := Binary64.read?_toString n.fits
  rw [h, Binary64.read?_text rfl] at hread
  exact isNearest_of_ofInt (Option.some.inj hread).symm

mutual
theorem alike_of_expr_eq : ∀ {v w : Json}, v.argument.expr f = w.argument.expr f → v.Alike w
  | .null, w, h => by
    cases w with
    | null => trivial
    | _ => exact absurd h (by simp [argument, expr])
  | .bool a, w, h => by
    cases w with
    | bool b => exact Expr.bool.inj h
    | _ => exact absurd h (by simp [argument, expr])
  | .int m, w, h => by
    cases w with
    | int n => exact Whole64.ext (toString_int_injective (Expr.number.inj h))
    | float negative x => exact isNearest_of_text_eq (Expr.number.inj h)
    | _ => exact absurd h (by simp [argument, expr])
  | .float negative x, w, h => by
    cases w with
    | int n => exact isNearest_of_text_eq (Expr.number.inj h).symm
    | float negative' x' => 
      have hread := Binary64.read?_text (x := .finite negative' x') rfl
      rw [← Expr.number.inj h, Binary64.read?_text rfl] at hread
      exact Binary64.finite.inj (Option.some.inj hread)
    | _ => exact absurd h (by simp [argument, expr])
  | .text s, w, h => by
    cases w with
    | text t => exact Expr.str.inj h
    | _ => exact absurd h (by simp [argument, expr])
  | .list items, w, h => by
    cases w with
    | list items' => exact alikeItems_of_exprs_eq (Expr.array.inj h)
    | _ => exact absurd h (by simp [argument, expr])
  | .object fields, w, h => by
    cases w with
    | object fields' => exact alikeFields_of_fieldExprs_eq (Expr.object.inj h)
    | _ => exact absurd h (by simp [argument, expr])

theorem alikeItems_of_exprs_eq : ∀ {items items' : List Json},
    exprs f (argumentItems items) = exprs f (argumentItems items') → AlikeItems items items'
  | [], items', h => by
    cases items' with
    | nil => trivial
    | cons _ _ => exact absurd h (by simp [argumentItems, exprs])
  | j :: rest, items', h => by
    cases items' with
    | nil => exact absurd h (by simp [argumentItems, exprs])
    | cons j' rest' =>
      obtain ⟨hj, hrest⟩ := List.cons.inj h
      exact ⟨alike_of_expr_eq hj, alikeItems_of_exprs_eq hrest⟩

theorem alikeFields_of_fieldExprs_eq : ∀ {fields fields' : List (String × Json)},
    fieldExprs f (argumentFields fields) = fieldExprs f (argumentFields fields') →
      AlikeFields fields fields'
  | [], fields', h => by
    cases fields' with
    | nil => trivial
    | cons _ _ => exact absurd h (by simp [argumentFields, fieldExprs, isAbsent_argument])
  | (key, j) :: rest, fields', h => by
    cases fields' with
    | nil => exact absurd h (by simp [argumentFields, fieldExprs, isAbsent_argument])
    | cons field rest' =>
      obtain ⟨key', j'⟩ := field
      simp only [argumentFields, fieldExprs, isAbsent_argument, if_neg Bool.false_ne_true] at h
      obtain ⟨hfield, hrest⟩ := List.cons.inj h
      obtain ⟨hkey, hj⟩ := Prod.mk.inj hfield
      exact ⟨hkey, alike_of_expr_eq hj, alikeFields_of_fieldExprs_eq hrest⟩
end

end Json

namespace Collector

/-! ## Actions -/

/-- The fields of the nested block of an action. -/
def AttributeAction.fields (a : AttributeAction) : Fields :=
  Field.always "key" (.text a.key) ++
    Field.always "action" (.text a.action) ++
    Field.optional "value" Json.argument a.value ++
    Field.optional "pattern" .text a.pattern ++
    Field.optional "from_attribute" .text a.fromAttribute ++
    Field.optional "from_context" .text a.fromContext ++
    Field.optional "converted_type" .text a.convertedType

variable {f : Special → Expr}

/-- The nested block of an action has the expression of the action's value. -/
theorem AttributeAction.attribute?_value (a : AttributeAction) :
    Body.attribute? (parts f a.fields) "value" = a.value.map fun v => v.argument.expr f := by
  have hparts : ∀ (name : String) (text : Option String),
      AreParts (fun _ => True) (Field.optional name .text text) := fun _ _ => by simp
  unfold fields
  rw [attribute?_drop _ (hparts _ _) (by simp +decide),
    attribute?_drop _ (hparts _ _) (by simp +decide),
    attribute?_drop _ (hparts _ _) (by simp +decide),
    attribute?_drop _ (hparts _ _) (by simp +decide),
    attribute?_skip (p := fun _ => True) _ (by simp) (by simp +decide)]
  cases a.value with
  | none => rfl
  | some v =>
    exact attribute?_always (p := fun _ => True) (a := .wrapped v.argument) v.isValue_argument
      v.isAbsent_argument

/-- Each action has a nested block, in order. -/
theorem AttributesProcessor.blocks_action (p : AttributesProcessor) {output : Argument}
    (houtput : output.TakesName) :
    (Body.blocks (parts f (p.arguments output))).filter (·.name = ["action"]) =
      p.actions.map fun a => ⟨["action"], none, parts f a.fields⟩ := by
  have hactions : Body.blocks (parts f
      (Field.unlessNil "action" (fun as => .list (as.map AttributeAction.block)) p.actions)) =
      p.actions.map fun a => ⟨["action"], none, parts f a.fields⟩ := by
    cases hp : p.actions with
    | nil => rfl
    | cons a as =>
      have hblock : ∀ a : AttributeAction, a.block.isBlock = true ∧ a.block.IsPart fun _ => True :=
        fun a => ⟨rfl, by simp [AttributeAction.block]⟩
      exact (blocks_list f "action" hblock (a :: as)).trans List.map_eq_flatMap.symm
  have hnone : (Body.blocks (parts f (Field.always "output" output))).filter
      (·.name = ["action"]) = [] := by
    refine List.filter_eq_nil_iff.2 fun b hb => ?_
    have havoids : Avoids ["action"] (Field.always "output" output) :=
      Field.avoids_always houtput (by decide)
    simpa using havoids f b hb
  rw [arguments, parts_append, Body.blocks_append, List.filter_append, hactions, hnone,
    List.append_nil, List.filter_eq_self.2]
  simp

/-! ## Given values -/

/-- Whether a value can be given to an attribute: it is not null, and its objects have their fields
in ascending order, as in a body that was read (`Json.isOrdered_ofValue`). -/
structure IsAttributeValue (v : Json) : Prop where
  ne_null : v ≠ .null
  isOrdered : v.IsOrdered

variable {v : Json}

theorem AttributeAction.gives_value (hv : IsAttributeValue v) {j : Json}
    (h : record.given? "value" j = some v) :
    (record.decode j.toValue).Gives fun a => a.value = some v := by
  let field : Field AttributeAction :=
    .of "value" (Decode.optional Decode.json) fun v s => { s with value := v }
  refine Record.gives_of_given (f := field) rfl ?_ ?_ (by decide) h
  · have hvalue := Decode.gives_optional_of_ne hv.ne_null (Decode.gives_json hv.isOrdered)
    refine Decode.gives_bind hvalue fun o ho => Decode.gives_pure fun s => ?_
    obtain ⟨_, rfl, rfl⟩ := ho
    rfl
  · simp only [record, List.forall_mem_cons]
    exact ⟨fun _ => .aside fun _ _ h => h, fun _ => .aside fun _ _ h => h,
      fun hne => absurd rfl hne, fun _ => .aside fun _ _ h => h, fun _ => .aside fun _ _ h => h,
      fun _ => .aside fun _ _ h => h, fun _ => .aside fun _ _ h => h, by simp⟩

/-- The value that the body of an attributes processor gives to the `k`-th action. -/
def AttributesProcessor.givenValue? (body : Json) (k : Nat) : Option Json :=
  match record.given? "actions" body with
  | some (.list actions) => actions[k]?.bind (AttributeAction.record.given? "value")
  | _ => none

/-- The action that is decoded has the value that it is given. -/
theorem AttributesProcessor.gives_value (hv : IsAttributeValue v) {body : Json} {k : Nat}
    (h : givenValue? body k = some v) :
    (record.decode body.toValue).Gives fun p => (p.actions[k]?.bind (·.value)) = some v := by
  unfold givenValue? at h
  split at h
  · rename_i actions hactions
    obtain ⟨j, hj, hgiven⟩ := Option.bind_eq_some_iff.1 h
    let field : Field AttributesProcessor :=
      .of "actions" (Decode.list AttributeAction.record.decode) fun v s => { s with actions := v }
    refine Record.gives_of_given (f := field) rfl ?_ ?_ (by decide) hactions
    · have hvalues := Decode.gives_list (d := AttributeAction.record.decode)
        (R := fun j a => AttributeAction.record.given? "value" j = some v → a.value = some v)
        (fun j place n a m heq hj => AttributeAction.gives_value hv hj place n a m heq) actions
      refine Decode.gives_bind hvalues fun as has => Decode.gives_pure fun s => ?_
      obtain ⟨hlength, has⟩ := List.forall₂_iff_get.1 has
      obtain ⟨hk, rfl⟩ := List.getElem?_eq_some_iff.1 hj
      have hk' : k < as.length := hlength ▸ hk
      exact Option.bind_eq_some_iff.2
        ⟨as[k], List.getElem?_eq_getElem hk', has k hk hk' hgiven⟩
    · simp only [record, List.forall_mem_cons]
      exact ⟨fun hne => absurd rfl hne, fun _ => .aside fun _ _ h => h,
        fun _ => .aside fun _ _ h => h, by simp⟩
  · exact absurd h (by simp)

theorem ComponentSettings.value_of_ofBody (hv : IsAttributeValue v) {body : Json} {k : Nat}
    (hgiven : AttributesProcessor.givenValue? body k = some v) {kind : SourceKind}
    {p : AttributesProcessor} (h : ofBody kind body = .ok (.attributesProcessor p)) :
    (p.actions[k]?.bind (·.value)) = some v := by
  obtain rfl : SourceKind.attributesProcessor = kind := (of_ofBody h).1
  have hdecoder : (decoder .attributesProcessor body.toValue).Gives
      fun s => ∀ p, s = .attributesProcessor p → (p.actions[k]?.bind (·.value)) = some v := by
    refine Decode.gives_map (AttributesProcessor.gives_value hv hgiven) fun p hp q hq => ?_
    obtain rfl := ComponentSettings.attributesProcessor.inj hq
    exact hp
  cases body with
  | null => exact absurd hgiven (by simp [AttributesProcessor.givenValue?, Record.given?])
  | bool _ | int _ | float _ _ | text _ | list _ | object _ => exact Decode.of_run hdecoder h p rfl

/-! ## Documents -/

/-- The value that is given to an action: by the body of the `i`-th accepted instance, to the `k`-th
action. -/
def Config.givenValue? (config : Config) (i k : Nat) : Option Json :=
  match config.usable[i]? with
  | some ⟨id, .attributesProcessor _⟩ =>
    (config.body? id).bind (AttributesProcessor.givenValue? · k)
  | _ => none

/-- The expression for the value of an action in a document: in the `i`-th block with a label, which
is that of an attributes processor, in the `k`-th nested block of an action. -/
def actionValue? (document : Body) (i k : Nat) : Option Expr :=
  ((document.blocks.filter (·.label.isSome))[i]?.filter
    (·.name = SourceKind.attributesProcessor.component.segments)).bind fun block =>
      (block.blocks.filter (·.name = ["action"]))[k]?.bind (·.attribute? "value")

namespace Config

/-- The block of the `i`-th accepted instance is the `i`-th one with a label. -/
theorem labelled_blocks (config : Config) :
    ((SourceConfig.collector config).standalone .builtin).document.blocks.filter
        (·.label.isSome) =
      (config.labelled .builtin).map fun e => e.1.block (config.wired .builtin) e.2 := by
  obtain ⟨logging, hlogging, -, hlabel⟩ := logging_eq config.service.telemetry.logs
  have hblocks : ((SourceConfig.collector config).standalone .builtin).document.blocks =
      logging.toList ++
        (config.labelled .builtin).map fun e => e.1.block (config.wired .builtin) e.2 := by
    rw [Draft.blocks_document]
    show (config.convert .builtin .empty).1.blocks = _
    rw [blocks_convert, hlogging]
  have hnone : logging.toList.filter (·.label.isSome) = [] :=
    List.filter_eq_nil_iff.2 fun b hb => by simp [hlabel b (by simpa using hb)]
  rw [hblocks, List.filter_append, hnone, List.nil_append, List.filter_eq_self.2]
  intro b hb
  obtain ⟨e, -, rfl⟩ := List.mem_map.1 hb
  rfl

theorem takesName_output (w : Wiring) (id : InstanceId) (signals : List Signal) :
    (w.output id signals).TakesName :=
  takesName_blockOf _

/-- An accepted instance that gives a value to an action is a processor with this action. -/
theorem action_of_given {config : Config} {i k : Nat} {v : Json}
    (h : config.givenValue? i k = some v) (hv : IsAttributeValue v) :
    ∃ id p a, config.usable[i]? = some ⟨id, .attributesProcessor p⟩ ∧
      p.actions[k]? = some a ∧ a.value = some v := by
  unfold givenValue? at h
  split at h
  · rename_i id p hi
    obtain ⟨body, hbody, hgiven⟩ := Option.bind_eq_some_iff.1 h
    have hmem : ⟨id, .attributesProcessor p⟩ ∈ config.accepted .builtin := by
      rw [accepted_builtin]
      exact List.mem_of_getElem? hi
    obtain ⟨-, body', hbody', hfate⟩ := mem_accepted.1 hmem
    obtain rfl : body = body' := Option.some.inj (hbody.symm.trans hbody')
    obtain ⟨kind, -, -, hdecoded, -⟩ := Fate.of_eq_accepted.1 hfate
    have hvalue := ComponentSettings.value_of_ofBody hv hgiven hdecoded
    obtain ⟨a, ha, hav⟩ := Option.bind_eq_some_iff.1 hvalue
    exact ⟨id, p, a, hi, ha, hav⟩
  · exact absurd h (by simp)

/-- What is emitted for a value is its expression. -/
theorem actionValue?_of_given {config : Config} {i k : Nat} {v : Json}
    (h : config.givenValue? i k = some v) (hv : IsAttributeValue v) :
    actionValue? ((SourceConfig.collector config).standalone .builtin).document i k =
      some (v.argument.expr Special.render) := by
  obtain ⟨id, p, a, hi, ha, hav⟩ := action_of_given h hv
  rw [← accepted_builtin, ← map_fst_labelled, List.getElem?_map, Option.map_eq_some_iff] at hi
  obtain ⟨⟨_, label⟩, he, rfl⟩ := hi
  let block := Accepted.block (config.wired .builtin) ⟨id, .attributesProcessor p⟩ label
  have hname : block.name = SourceKind.attributesProcessor.component.segments := rfl
  have hactions : block.blocks.filter (·.name = ["action"]) =
      p.actions.map fun a => ⟨["action"], none, parts Special.render a.fields⟩ :=
    p.blocks_action (takesName_output _ _ _)
  rw [actionValue?, labelled_blocks, List.getElem?_map, he, Option.map_some]
  show ((some block).filter _).bind _ = _
  rw [Option.filter_some, if_pos (decide_eq_true hname), Option.bind_some, hactions,
    List.getElem?_map, ha]
  show Body.attribute? (parts Special.render a.fields) "value" = _
  rw [a.attribute?_value, hav]
  rfl

end Config

/-- The value of every action comes through. The document has an expression for it, laid out in the
canonical way and read back, and this expression spells the value. Another value that leads to it,
given to whatever action of whatever collector, is alike: it may have a whole number where the
number nearest to it was, or the other way around. -/
theorem Config.opaqueValue_kept {config : Config} {i k : Nat} {v : Json}
    (hgiven : config.givenValue? i k = some v) (hv : IsAttributeValue v) :
    let document := ((SourceConfig.collector config).standalone .builtin).document
    ∃ e read, actionValue? document i k = some e ∧
      ((SourceConfig.collector config).convert .builtin).document = document.canonical.toUTF8 ∧
      parseDocument document.canonical = .ok read ∧ actionValue? read i k = some e ∧
      e.Spells v ∧
      ∀ (other : Config) (j l : Nat) (w : Json), other.givenValue? j l = some w →
        IsAttributeValue w →
        actionValue? ((SourceConfig.collector other).standalone .builtin).document j l = some e →
        w.Alike v := by
  intro document
  have hsound := (SourceConfig.collector config).isSound_standalone .builtin
  have hvalue : actionValue? document i k = some (v.argument.expr Special.render) :=
    actionValue?_of_given hgiven hv
  refine ⟨_, document, hvalue, ?_, parseDocument_canonical hsound.wellFormed, hvalue,
    v.spells_expr, ?_⟩
  · rw [SourceConfig.convert_eq]
  · intro other j l w hother hw hsame
    rw [actionValue?_of_given hother hw, Option.some.injEq] at hsame
    exact Json.alike_of_expr_eq hsame

/-- A pipeline with an attributes processor that inserts the values. -/
def inserting (values : List Json) : Config where
  receivers := .ofList [("otlp", .null)]
  processors := .ofList [("attributes", .object [("actions", .list (values.map fun v => .object
    [("action", .text "insert"), ("key", .text "k"), ("value", v)]))])]
  exporters := .ofList [("debug", .null)]
  service := { pipelines := .ofList [("traces", ⟨["otlp"], ["attributes"], ["debug"]⟩)] }

/-- A half. -/
def half : Magnitude := ⟨2 ^ 52, -53, by decide⟩

/-- A value with an empty key, a key that has to be escaped, null, an empty object, the least and
the greatest whole number, and a number with a fraction. -/
def nestedValue : Json :=
  .object [("", .list [.null, .bool false, .int ⟨-9223372036854775808, by decide⟩,
    .int ⟨18446744073709551615, by decide⟩, .float true half]), ("\"\\\n", .object [])]

theorem opaqueValue_kept_inserting : (inserting [nestedValue]).givenValue? 1 0 = some nestedValue ∧
    IsAttributeValue nestedValue ∧
    ∃ e read, actionValue? ((SourceConfig.collector (inserting [nestedValue])).standalone
        .builtin).document 1 0 = some e ∧
      parseDocument ((SourceConfig.collector (inserting [nestedValue])).standalone
        .builtin).document.canonical = .ok read ∧
      actionValue? read 1 0 = some e ∧ e.Spells nestedValue := by
  have hgiven : (inserting [nestedValue]).givenValue? 1 0 = some nestedValue := by cbv
  have hvalue : IsAttributeValue nestedValue := by
    refine ⟨by simp [nestedValue], ?_⟩
    simp +decide [nestedValue, Json.IsOrdered, Json.AreOrdered, Json.AreOrderedFields]
  obtain ⟨e, read, hemitted, -, hparse, hread, hspells, -⟩ := Config.opaqueValue_kept hgiven hvalue
  exact ⟨hgiven, hvalue, e, read, hemitted, hparse, hread, hspells⟩

/-- A whole number of more bits than a mantissa has. -/
def wide : Whole64 := ⟨9223372036854776000, by decide⟩

/-- The number that is nearest to it, which is another one. -/
def nearWide : Magnitude := ⟨2 ^ 52, 11, by decide⟩

/-- Two values that differ lead to one expression: the shortest decimal of a large number has the
digits of a whole number that is near. -/
theorem opaqueValue_shared :
    let config := inserting [.int wide, .float false nearWide]
    let document := ((SourceConfig.collector config).standalone .builtin).document
    config.givenValue? 1 0 = some (.int wide) ∧
      config.givenValue? 1 1 = some (.float false nearWide) ∧
      (nearWide.mantissa * 2 ^ nearWide.exponent : ℚ) ≠ wide.value ∧
      actionValue? document 1 0 = some (.number "9223372036854776000") ∧
      actionValue? document 1 1 = some (.number "9223372036854776000") := by
  intro config document
  have hint : config.givenValue? 1 0 = some (.int wide) := by cbv
  have hfloat : config.givenValue? 1 1 = some (.float false nearWide) := by cbv
  refine ⟨hint, hfloat, by norm_num [nearWide, wide], ?_, ?_⟩
  · exact (Config.actionValue?_of_given hint ⟨by simp, trivial⟩).trans (by decide +kernel)
  · exact (Config.actionValue?_of_given hfloat ⟨by simp, trivial⟩).trans (by decide +kernel)

end Collector

end AgentConvert
