import AgentConvert.ByteSize
import AgentConvert.Proofs.Collector.Document
import AgentConvert.Proofs.Collector.Output
import AgentConvert.Proofs.Duration.RoundTrip
import AgentConvert.Proofs.Routing.Routed

/-!
# Byte sizes keep their value

A byte size is a number and a unit (`ByteSize.Denotes`). A unit has no digits, so a text denotes one
amount at most (`ByteSize.Denotes.unique`), and the text that is written for an amount denotes that
amount (`ByteSize.denotes_text_iff`), whichever unit it is in.

A size that is configured is an attribute whose text denotes it, and one that is not configured is
no attribute (`Block.ShowsSize`). This holds for the batches of log shippers, for the buffers and
requests of receivers, and for the limits on memory. The one exception is the greatest message of a
receiver: it is configured in units of `2 ^ 20` bytes and put in a 64-bit word, so what is over
`2 ^ 64` bytes is lost (`Collector.toNat_bytesOfMib`).
-/

namespace AgentConvert.ByteSize

/-! ## Texts of sizes -/

/-- The units with their bytes. -/
def scales : List (List Char × Nat) :=
  [(['G', 'i', 'B'], 2 ^ 30), (['M', 'i', 'B'], 2 ^ 20), (['K', 'i', 'B'], 2 ^ 10), (['B'], 1)]

/-- Whether a text is a number in one of the units, of so many bytes. -/
def Denotes (text : String) (bytes : Nat) : Prop :=
  ∃ digits, ∃ u ∈ scales, (digits ≠ [] ∧ ∀ d ∈ digits, d.isDigit = true) ∧
    text.toList = digits ++ u.1 ∧ bytes = natOfDigits digits * u.2

variable {text : String} {m n : Nat}

theorem head?_of_mem_scales : ∀ u ∈ scales, ∀ c ∈ u.1.head?, c.isDigit = false := by
  simp only [scales, List.forall_mem_cons, List.head?_cons, Option.mem_def, Option.some.injEq,
    forall_eq']
  decide

theorem scales_injective : ∀ u ∈ scales, ∀ v ∈ scales, u.1 = v.1 → u.2 = v.2 := by decide

theorem Denotes.unique (hm : Denotes text m) (hn : Denotes text n) : m = n := by
  obtain ⟨digits, u, hu, hdigits, htext, rfl⟩ := hm
  obtain ⟨digits', v, hv, hdigits', htext', rfl⟩ := hn
  have htake := takeWhile_append hdigits.2 (head?_of_mem_scales u hu)
  have htake' := takeWhile_append hdigits'.2 (head?_of_mem_scales v hv)
  rw [← htext] at htake
  rw [← htext', htake] at htake'
  subst htake'
  have hunit : u.1 = v.1 := List.append_cancel_left (htext.symm.trans htext')
  rw [scales_injective u hu v hv hunit]

/-- A number in front of a unit denotes so many of the unit. -/
theorem denotes_number (n : Nat) {unit : String} {size : Nat} (h : (unit.toList, size) ∈ scales) :
    Denotes (toString n ++ unit) (n * size) := by
  refine ⟨Nat.toDigits 10 n, _, h, ⟨Nat.toDigits_ne_nil, fun d hd => ?_⟩, ?_, ?_⟩
  · exact Nat.isDigit_of_mem_toDigits (by decide) (by decide) hd
  · rw [String.toList_append, Nat.toString_eq_repr, Nat.toList_repr]
  · rw [natOfDigits_toDigits]

theorem mem_scales_of_mem_units : ∀ u ∈ units, (u.1.toList, u.2) ∈ scales := by decide

/-- What is written for an amount denotes the amount. -/
theorem denotes_text (n : Nat) : Denotes (ByteSize.text n) n := by
  rw [ByteSize.text]
  split
  · rename_i unit size hfind
    have hsize := List.find?_some hfind
    rw [Bool.and_eq_true, beq_iff_eq] at hsize
    have hnumber := denotes_number (n / size)
      (mem_scales_of_mem_units _ (List.mem_of_find?_eq_some hfind))
    rwa [Nat.div_mul_cancel (Nat.dvd_of_mod_eq_zero hsize.2)] at hnumber
  · have hnumber : Denotes (toString n ++ "B") (n * 1) := denotes_number n (by decide)
    rwa [Nat.mul_one] at hnumber

/-- What is written for an amount denotes nothing else. -/
theorem denotes_text_iff : Denotes (ByteSize.text n) m ↔ m = n :=
  ⟨fun h => h.unique (denotes_text n), fun h => h ▸ denotes_text n⟩

end AgentConvert.ByteSize

namespace AgentConvert

open Argument

/-! ## Sizes in blocks -/

/-- The values of all attributes with this name. -/
def Body.values (body : Body) (name : String) : List Expr :=
  body.filterMap fun
    | .attribute n value => if n == name then some value else none
    | .block .. => none

/-- Whether the block has one attribute with this name, whose text denotes this amount and no other,
or no attribute with this name, if there is no amount. -/
def Block.ShowsSize (b : Block) (name : String) : Option Nat → Prop
  | none => b.body.values name = []
  | some bytes => ∃ text, b.body.values name = [.str text] ∧
      ∀ n, ByteSize.Denotes text n ↔ n = bytes

/-- Whether the block has one nested block with this name, which is what the settings say, or no
nested block with this name, if there are no settings. -/
def Block.Nests {α : Type} (b : Block) (name : String) (p : Block → α → Prop) : Option α → Prop
  | none => b.blocks.filter (·.name = [name]) = []
  | some settings => ∃ nested, b.blocks.filter (·.name = [name]) = [nested] ∧ p nested settings

variable {p : Special → Prop} {f : Special → Expr} {name : String} {path : List String}
  {label : Option String} {args before after : Fields}

theorem Body.values_append (a b : Body) (name : String) :
    Body.values (a ++ b) name = Body.values a name ++ Body.values b name :=
  List.filterMap_append

theorem Body.values_of_attribute? {body : Body} (h : body.attribute? name = none) :
    body.values name = [] := by
  rw [attribute?, List.findSome?_eq_none_iff] at h
  exact List.filterMap_eq_nil_iff.2 h

/-- The fields with this name. -/
def called (name : String) (fields : Fields) : Fields := fields.filter (·.1 = name)

@[simp] theorem called_append (as bs : Fields) :
    called name (as ++ bs) = called name as ++ called name bs :=
  List.filter_append ..

@[simp] theorem called_of_lacks {fields : Fields} (h : Lacks name fields) :
    called name fields = [] := by
  refine List.filter_eq_nil_iff.2 fun e he => ?_
  simp only [decide_eq_true_eq]
  rintro rfl
  exact h (List.mem_map_of_mem he)

@[simp] theorem called_optional {α : Type} (g : α → Argument) (value : Option α) :
    called name (Field.optional name g value) = Field.optional name g value := by
  simp [called, Field.optional]

/-- The values of a name come from the fields with this name. -/
theorem values_parts (h : AreParts p args) :
    Body.values (parts f args) name = Body.values (parts f (called name args)) name := by
  induction args with
  | nil => rfl
  | cons e args ih =>
    obtain ⟨own, a⟩ := e
    rw [parts, Body.values_append, ih h.2]
    by_cases hown : name = own
    · subst hown
      rw [called, called, List.filter_cons_of_pos (by simp), parts, Body.values_append]
    · rw [Body.values_of_attribute? (attribute?_part hown a h.1), List.nil_append, called, called,
        List.filter_cons_of_neg (by simpa using Ne.symm hown)]

/-- A size is shown if it is all that its name stands for. -/
theorem showsSize_of_called {size : Option Nat} (h : AreParts p args)
    (hcalled : called name args = Field.optional name .text (size.map ByteSize.text)) :
    Block.ShowsSize ⟨path, label, parts f args⟩ name size := by
  have hvalues : Body.values (parts f args) name = Body.values (parts f (called name args)) name :=
    values_parts h
  rw [hcalled] at hvalues
  cases size with
  | none => exact hvalues
  | some n =>
    refine ⟨ByteSize.text n, ?_, fun m => ByteSize.denotes_text_iff⟩
    rw [hvalues]
    simp [Field.optional, parts, part, expr, Body.values]

theorem filter_of_avoids {name : List String} (h : Avoids name args) :
    (Body.blocks (parts f args)).filter (·.name = name) = [] :=
  List.filter_eq_nil_iff.2 fun b hb => by simpa using h f b hb

/-- Only the fields in the middle stand for nested blocks of this name. -/
theorem filter_blocks_between {name : List String} (middle : Fields) (hbefore : Avoids name before)
    (hafter : Avoids name after) :
    (Body.blocks (parts f (before ++ middle ++ after))).filter (·.name = name) =
      (Body.blocks (parts f middle)).filter (·.name = name) := by
  rw [parts_append, parts_append, Body.blocks_append, Body.blocks_append, List.filter_append,
    List.filter_append, filter_of_avoids hbefore, filter_of_avoids hafter, List.nil_append,
    List.append_nil]

/-- A nested block among fields that stand for no block of its name is nested. -/
theorem nests_between {α : Type} (before : Fields) {q : Block → α → Prop} {settings : α}
    {middle : Fields} {nested : Block} (heq : args = before ++ middle ++ after)
    (hblocks : Body.blocks (parts f middle) = [nested]) (hname : nested.name = [name])
    (hbefore : Avoids [name] before) (hafter : Avoids [name] after) (h : q nested settings) :
    Block.Nests ⟨path, label, parts f args⟩ name q (some settings) := by
  refine ⟨nested, ?_, h⟩
  rw [Block.blocks_mk, heq, filter_blocks_between middle hbefore hafter, hblocks]
  simp [hname]

/-- The fields of a nested block. -/
def Argument.ownFields : Argument → Fields
  | .block (.record fields) => fields
  | _ => []

/-- A nested block that may be there is nested if it is. -/
theorem nests_optional {α : Type} (before : Fields) {q : Block → α → Prop} {g : α → Fields}
    {settings : Option α}
    (heq : args = before ++ Field.optional name (fun a => .blockOf (g a)) settings ++ after)
    (hname : dotted name = [name]) (hbefore : Avoids [name] before) (hafter : Avoids [name] after)
    (h : ∀ a ∈ settings, q ⟨dotted name, none, parts f (g a)⟩ a) :
    Block.Nests ⟨path, label, parts f args⟩ name q settings := by
  cases settings with
  | none =>
    show (Body.blocks (parts f args)).filter _ = _
    rw [heq, filter_blocks_between _ hbefore hafter]
    rfl
  | some a => exact nests_between before heq rfl hname hbefore hafter (h a rfl)

namespace Collector

/-! ## Receivers -/

/-- What is over 64 bits is lost. -/
theorem toNat_bytesOfMib (n : UInt64) : (bytesOfMib n).toNat = n.toNat * 2 ^ 20 % 2 ^ 64 := by
  rw [bytesOfMib, UInt64.toNat_shiftLeft, Nat.shiftLeft_eq]
  rfl

@[simp] theorem lacks_sizeField {own : String} (size : Option UInt64) (h : name ≠ own) :
    Lacks name (sizeField own size) :=
  Field.lacks_optional h

theorem called_sizeField (size : Option UInt64) : called name (sizeField name size) =
    Field.optional name .text ((size.map UInt64.toNat).map ByteSize.text) := by
  rw [sizeField, called_optional, Option.map_map]
  rfl

/-- Whether a block shows the sizes of a server for remote procedure calls. -/
def GrpcServer.ShowsSizes (b : Block) (g : GrpcServer) : Prop :=
  b.ShowsSize "max_recv_msg_size" (g.maxRecvMsgSizeMib.map fun n => n.toNat * 2 ^ 20 % 2 ^ 64) ∧
  b.ShowsSize "read_buffer_size" (g.readBufferSize.map UInt64.toNat) ∧
  b.ShowsSize "write_buffer_size" (g.writeBufferSize.map UInt64.toNat)

theorem GrpcServer.showsSizes_block (g : GrpcServer) :
    ShowsSizes ⟨path, label, parts f g.block.ownFields⟩ g := by
  have hparts : AreParts (fun _ => True) g.block.ownFields := by simp [block, ownFields, blockOf]
  have hwrapped : g.maxRecvMsgSizeMib.map (fun n => n.toNat * 2 ^ 20 % 2 ^ 64) =
      (g.maxRecvMsgSizeMib.map bytesOfMib).map UInt64.toNat := by
    rw [Option.map_map]
    exact congrArg (g.maxRecvMsgSizeMib.map ·) (funext fun n => (toNat_bytesOfMib n).symm)
  refine ⟨?_, ?_, ?_⟩
  · rw [hwrapped]
    exact showsSize_of_called hparts (by simp [block, ownFields, blockOf, called_sizeField])
  · exact showsSize_of_called hparts (by simp [block, ownFields, blockOf, called_sizeField])
  · exact showsSize_of_called hparts (by simp [block, ownFields, blockOf, called_sizeField])

/-- Whether a block shows the sizes of a web server. -/
def HttpServer.ShowsSizes (b : Block) (h : HttpServer) : Prop :=
  b.ShowsSize "max_request_body_size" (h.maxRequestBodySize.map UInt64.toNat)

theorem HttpServer.showsSizes_block (h : HttpServer) :
    ShowsSizes ⟨path, label, parts f h.block.ownFields⟩ h := by
  have hparts : AreParts (fun _ => True) h.block.ownFields := by simp [block, ownFields, blockOf]
  exact showsSize_of_called hparts (by simp [block, ownFields, blockOf, called_sizeField])

/-- Whether a block shows the sizes of a receiver, in the nested blocks of its protocols. -/
def OtlpReceiver.ShowsSizes (b : Block) (r : OtlpReceiver) : Prop :=
  b.Nests "grpc" GrpcServer.ShowsSizes r.protocols.grpc ∧
  b.Nests "http" HttpServer.ShowsSizes r.protocols.http

theorem OtlpReceiver.showsSizes_arguments (r : OtlpReceiver) {output : Argument}
    (h : output.TakesName) : ShowsSizes ⟨path, label, parts f (r.arguments output)⟩ r := by
  refine ⟨?_, ?_⟩
  · refine nests_optional [] (g := fun g => g.block.ownFields) (List.append_assoc ..)
      (by decide) avoids_nil ?_ fun g _ => g.showsSizes_block
    simp +decide [HttpServer.block, h]
  · refine nests_optional _ (g := fun h => h.block.ownFields) rfl (by decide) ?_ ?_
      fun h _ => h.showsSizes_block
    · simp +decide [GrpcServer.block]
    · simp +decide [h]

/-! ## Limits on memory -/

/-- Whether a block shows the limits on memory. -/
def MemoryLimiter.ShowsSizes (b : Block) (m : MemoryLimiter) : Prop :=
  b.ShowsSize "limit" (m.limitMib.map fun n => n.toNat * 2 ^ 20) ∧
  b.ShowsSize "spike_limit" (m.spikeLimitMib.map fun n => n.toNat * 2 ^ 20)

theorem MemoryLimiter.map_mibText (size : Option UInt32) :
    size.map mibText = (size.map fun n => n.toNat * 2 ^ 20).map ByteSize.text := by
  rw [Option.map_map]
  rfl

theorem MemoryLimiter.showsSizes_arguments (m : MemoryLimiter) {output : Argument}
    (h : AreParts p (m.arguments output)) :
    ShowsSizes ⟨path, label, parts f (m.arguments output)⟩ m :=
  ⟨showsSize_of_called h (by simp [arguments, map_mibText]),
    showsSize_of_called h (by simp [arguments, map_mibText])⟩

/-! ## Instances -/

/-- Whether a block shows the sizes among the settings of an instance. Other settings have none. -/
def ComponentSettings.ShowSizes (b : Block) : ComponentSettings → Prop
  | .otlpReceiver r => r.ShowsSizes b
  | .memoryLimiterProcessor m => m.ShowsSizes b
  | _ => True

theorem Accepted.showSizes_block {a : Accepted} (h : a.settings.IsFinite) (w : Wiring)
    (label : String) : a.settings.ShowSizes (a.block w label) := by
  have hparts := Accepted.areParts_arguments h w
  rw [Accepted.block]
  generalize houtput : w.output a.id a.settings.signals = output at hparts ⊢
  have hname : output.TakesName := houtput ▸ takesName_blockOf _
  generalize a.settings = settings at hparts ⊢
  cases settings with
  | otlpReceiver r => exact r.showsSizes_arguments hname
  | memoryLimiterProcessor m => exact m.showsSizes_arguments hparts
  | _ => trivial

end Collector

namespace LogShipper

/-! ## Clients -/

/-- Whether a block shows the size of the batches for a client, in its nested block. -/
def Client.ShowsSizes (b : Block) (c : Client) : Prop :=
  b.Nests "endpoint" (fun nested c => nested.ShowsSize "batch_size" (c.batchSize.map UInt64.toNat))
    (some c)

@[simp] theorem avoids_unlessEmpty {name : List String} {field : String} {d : Dictionary String}
    (h : dotted field ≠ name) : Avoids name (Field.unlessEmpty field d) := by
  unfold Field.unlessEmpty
  split
  · exact avoids_nil
  · exact avoids_field (takesName_labels d) h

theorem Shipment.showsSizes_write (c : Client) (label : String) :
    c.ShowsSizes (write c label) := by
  have hname : dotted "endpoint" = ["endpoint"] := by decide
  refine nests_between [] rfl rfl hname avoids_nil (avoids_unlessEmpty (by decide)) ?_
  refine showsSize_of_called (p := Special.Uses [] []) ?_ ?_
  · simp
  · simp [HttpClient.arguments, Function.comp_def]

/-- Every client of every shipment has a label of its own. -/
theorem Consists.nodup_writeLabels {document : List Block} {shipments : List Shipment}
    (h : Consists document shipments) : (shipments.flatMap Shipment.writeLabels).Nodup := by
  have hlabels : ∀ s ∈ shipments, s.writeLabels.map (Kind.write.name, ·) =
      (s.config.clients.zip s.writeLabels).map fun e => (Kind.write.name, e.2) := by
    intro s hs
    have hzip : (s.config.clients.zip s.writeLabels).map Prod.snd = s.writeLabels :=
      List.map_snd_zip (Nat.le_of_eq (h.labelled s hs).clients)
    calc s.writeLabels.map (Kind.write.name, ·)
      _ = ((s.config.clients.zip s.writeLabels).map Prod.snd).map (Kind.write.name, ·) := by
        rw [hzip]
      _ = _ := List.map_map
  have hsub : (shipments.flatMap fun s => s.writeLabels.map (Kind.write.name, ·)).Sublist
      (shipments.flatMap Shipment.labels) := by
    rw [List.flatMap_congr hlabels]
    refine List.Sublist.flatMap_right _ fun s _ => ?_
    rw [Shipment.labels_eq]
    exact List.sublist_append_right _ _
  refine List.Nodup.of_map (Kind.write.name, ·) ?_
  rw [List.map_flatMap]
  exact hsub.nodup h.nodup

end LogShipper

/-! ## Documents -/

namespace SourceConfig

/-- A size in units of `2 ^ 20` bytes fits in a 64-bit word below `2 ^ 44`. -/
theorem wrapped_eq_iff (n : UInt64) :
    n.toNat * 2 ^ 20 % 2 ^ 64 = n.toNat * 2 ^ 20 ↔ n.toNat < 2 ^ 44 := by
  have hn := n.toNat_lt
  omega

/-- In the document of a configuration the blocks of all clients of all log shippers show the sizes
of their batches, and in the document of a collector those of all instances show their sizes: every
text denotes the amount that is configured, but for the greatest message of a receiver. This one is
the amount up to multiples of `2 ^ 64` bytes, so it is the amount that is configured just below
`2 ^ 44` units of `2 ^ 20` bytes. -/
theorem sizes_denoted (registry : Collector.Registry) (config : SourceConfig) :
    let document := Body.blocks (config.standalone registry).document
    (∃ shipments : List LogShipper.Shipment,
      shipments.map LogShipper.Shipment.config = config.logShippers ∧
      (shipments.flatMap LogShipper.Shipment.writeLabels).Nodup ∧
      ∀ s ∈ shipments, s.writeLabels.length = s.config.clients.length ∧
        ∀ e ∈ s.config.clients.zip s.writeLabels, ∃ b,
          blocksAt document LogShipper.Kind.write e.2 = [b] ∧ e.1.ShowsSizes b) ∧
    (∀ c, config = .collector c →
      ∃ (logging : List Block) (placed : List (Collector.Accepted × Block)),
        document = logging ++ placed.map Prod.snd ∧ (∀ b ∈ logging, b.name = ["logging"]) ∧
        placed.map Prod.fst = c.accepted registry ∧
        ∀ e ∈ placed, e.2.name = e.1.kind.component.segments ∧ e.1.settings.ShowSizes e.2) ∧
    ∀ n : UInt64, n.toNat * 2 ^ 20 % 2 ^ 64 = n.toNat * 2 ^ 20 ↔ n.toNat < 2 ^ 44 := by
  rw [Draft.blocks_document]
  refine ⟨?_, ?_, wrapped_eq_iff⟩
  · obtain ⟨shipments, hconfigs, h⟩ := config.consists_standalone registry
    refine ⟨shipments, hconfigs, h.nodup_writeLabels, fun s hs =>
      ⟨(h.labelled s hs).clients, fun e he => ?_⟩⟩
    exact ⟨_, h.blocksAt_write hs he, LogShipper.Shipment.showsSizes_write e.1 e.2⟩
  · rintro c rfl
    obtain ⟨logging, hlogging, -, hname⟩ :=
      Collector.Config.logging_eq c.service.telemetry.logs
    refine ⟨logging.toList, (c.labelled registry).map fun e =>
      (e.1, e.1.block (c.wired registry) e.2), ?_, fun b hb => ?_, ?_, ?_⟩
    · have hdraft : (SourceConfig.collector c).standalone registry =
          (c.convert registry .empty).1 := rfl
      rw [hdraft, Collector.Config.blocks_convert, hlogging, List.map_map]
      rfl
    · exact (hname b (Option.mem_toList.1 hb)).1
    · rw [List.map_map]
      exact Collector.Config.map_fst_labelled
    · rintro _ hplaced
      obtain ⟨e, he, rfl⟩ := List.mem_map.1 hplaced
      have haccepted := (List.of_mem_zip he).1
      exact ⟨rfl, Collector.Accepted.showSizes_block
        (Collector.Config.isFinite_of_mem_accepted haccepted) _ _⟩

/-- A receiver whose messages may have `2 ^ 64` bytes. -/
def oversized : SourceConfig := .collector {
  receivers := .ofList [("otlp", .object [("protocols", .object [("grpc", .object [
    ("max_recv_msg_size_mib", .int ⟨17592186044416, by decide⟩)])])])]
  exporters := .ofList [("debug", .null)]
  service := { pipelines := .ofList [("traces", ⟨["otlp"], [], ["debug"]⟩)] } }

/-- The receiver says that they may have none. -/
theorem sizes_denoted_oversized :
    (∃ b ∈ Body.blocks (oversized.standalone .builtin).document, ∃ nested ∈ b.blocks,
      nested.attribute? "max_recv_msg_size" = some (.str "0B")) ∧
    ¬ByteSize.Denotes "0B" (17592186044416 * 2 ^ 20) := by
  refine ⟨by decide +kernel, fun h => ?_⟩
  exact absurd (ByteSize.Denotes.unique h (ByteSize.denotes_text 0)) (by decide)

end SourceConfig

end AgentConvert
