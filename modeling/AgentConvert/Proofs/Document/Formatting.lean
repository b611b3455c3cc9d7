import AgentConvert.Document.Format
import AgentConvert.Proofs.Document.Layouts
import AgentConvert.Proofs.Document.Reading
import AgentConvert.Proofs.Document.Returned

/-!
# Layouts are read back

Both layouts of a well-formed document spell tokens that the grammar has for it (`Layouts`), and the
parser reads what the grammar has (`Reading`). So the parser undoes both layouts, and the compact
layout of an expression (`parse_layouts`).

Bytes encode a document, or they are no text or one that spells no document
(`Format.encodes_or_encodesNothing`). In the first case they are formatted as the canonical layout
of the document (`Format.format_of_encodes`): what was read is well formed (`Returned`), so its
canonical layout is read back and the comparison with the input does not fail. In the second case
they are refused for what is wrong with them (`Format.format_of_encodesNothing`). So formatting
keeps the document, and formatting again changes nothing (`Format.formatBytes_faithful`).
-/

namespace AgentConvert

/-! ## Both layouts -/

/-- A text that spells tokens of a body is read as that body. -/
theorem parseDocument_of_spells {cs : List Char} {ts : List Token} {body : Body}
    (h : Spells cs ts) (hg : BodyTokens ts body) :
    parseDocument (String.ofList cs) = .ok body := by
  obtain ⟨ls, l, hls, heq⟩ := h.lexFrom_eq 1
  have hread : Reads (parseBody true (ls ++ [⟨l, .endOfText⟩])) body [⟨l, .endOfText⟩] :=
    parseBody_reads body hg hls rfl
  obtain ⟨p, hp, rfl, -⟩ := hread
  rw [parseDocument, lex, String.toList_ofList, heq]
  simp only [hp]
  rfl

theorem parseDocument_canonical {body : Body} (h : body.WellFormed) :
    parseDocument body.canonical = .ok body := by
  obtain ⟨ts, hts, hg⟩ := Statement.spells_layoutBody 0 .nothing body h
  exact parseDocument_of_spells hts hg

theorem parseDocument_compact {body : Body} (h : body.WellFormed) :
    parseDocument body.compact = .ok body := by
  obtain ⟨ts, hts, hg⟩ := Statement.spells_compactBody 0 body h
  exact parseDocument_of_spells hts hg

theorem parseExpression_compact {e : Expr} (h : e.WellFormed) :
    parseExpression e.compact = .ok e := by
  obtain ⟨ts, hts, hg⟩ := Expr.spells_compactChars e h
  obtain ⟨ls, l, hls, heq⟩ := hts.lexFrom_eq 1
  have hread : Reads (parseExpr (ls ++ [⟨l, .endOfText⟩])) e [⟨l, .endOfText⟩] :=
    parseExpr_reads e hg hls fun _ _ => ⟨by simp [headToken], by simp [headToken]⟩
  obtain ⟨p, hp, rfl, hrest⟩ := hread
  rw [parseExpression, lex, Expr.compact, String.toList_ofList, heq]
  simp only [hp, hrest, headToken, ↓reduceIte]

/-- The parser undoes both layouts of well-formed documents, and the compact layout of well-formed
expressions. -/
theorem parse_layouts :
    (∀ body : Body, body.WellFormed →
      parseDocument body.canonical = .ok body ∧ parseDocument body.compact = .ok body) ∧
    ∀ e : Expr, e.WellFormed → parseExpression e.compact = .ok e := by
  refine ⟨fun body h => ⟨?_, ?_⟩, fun e h => ?_⟩
  · exact parseDocument_canonical h
  · exact parseDocument_compact h
  · exact parseExpression_compact h

/-- A document with a number that has every part, quoted and bare keys, an array of objects, a call
that spans lines, and a label and texts that need escapes. -/
def nestedDocument : Body :=
  [.attribute "ratio" (.number "-1.50e+3"),
    .block ["a", "b1"] (some "x \n\"y\"")
      [.attribute "_true" (.call ["f", "null"]
          [.object [("null", .bool true), ("k 1", .str "\\\té\x7b"), ("", .array [])], .null]),
        .block ["c"] none [],
        .attribute "xs" (.array [.object [("a", .path ["e1", "true"])]])]]

theorem parse_layouts_nested :
    parseDocument nestedDocument.canonical = .ok nestedDocument ∧
      parseDocument nestedDocument.compact = .ok nestedDocument ∧
      parseExpression (Expr.call ["f"] [.str "\r", .bool false]).compact =
        .ok (.call ["f"] [.str "\r", .bool false]) := by
  have hnumber : IsNumber "-1.50e+3".toList :=
    ⟨['-'], ['1'], ['.', '5', '0'], ['e', '+', '3'], by decide, by decide, by decide,
      .inr ⟨['5', '0'], by decide⟩, .inr ⟨'e', ['+'], ['3'], by decide⟩⟩
  have hcall : IsReference ["f"] := by decide
  have hpath : IsReference ["e1", "true"] := by decide
  have hdocument : nestedDocument.WellFormed := by
    refine ⟨⟨by decide, hnumber⟩, ⟨by decide, ?_⟩, trivial⟩
    refine ⟨⟨by decide, by decide, ?_⟩, ⟨by decide, trivial⟩, ⟨by decide, ?_⟩, trivial⟩
    · exact ⟨⟨trivial, trivial, trivial, trivial⟩, trivial, trivial⟩
    · exact ⟨⟨hpath, trivial⟩, trivial⟩
  obtain ⟨hcanonical, hcompact⟩ := parse_layouts.1 nestedDocument hdocument
  exact ⟨hcanonical, hcompact, parse_layouts.2 _ ⟨hcall, trivial, trivial, trivial⟩⟩

end AgentConvert

namespace AgentConvert.Format

/-! ## What bytes encode -/

variable {bytes : ByteArray} {body : Body} {text : String}

/-- Whether `bytes` are a text that spells `body`. -/
def Encodes (bytes : ByteArray) (body : Body) : Prop :=
  ∃ text : String, bytes = text.toUTF8 ∧ parseDocument text = .ok body

/-- Whether `bytes` are no text, or one that spells no document. -/
def EncodesNothing (bytes : ByteArray) : Prop :=
  (∀ text : String, bytes ≠ text.toUTF8) ∨
    ∃ (text : String) (e : SyntaxError), bytes = text.toUTF8 ∧ parseDocument text = .error e

theorem encodes_or_encodesNothing (bytes : ByteArray) :
    (∃ body, Encodes bytes body) ∨ EncodesNothing bytes := by
  by_cases htext : ∃ text : String, bytes = text.toUTF8
  · obtain ⟨text, rfl⟩ := htext
    cases hparse : parseDocument text with
    | ok body => exact .inl ⟨body, text, rfl, hparse⟩
    | error e => exact .inr (.inr ⟨text, e, rfl, hparse⟩)
  · exact .inr (.inl fun text h => htext ⟨text, h⟩)

theorem encodes_canonical (h : body.WellFormed) : Encodes body.canonical.toUTF8 body :=
  ⟨body.canonical, rfl, parseDocument_canonical h⟩

theorem encodes_compact (h : body.WellFormed) : Encodes body.compact.toUTF8 body :=
  ⟨body.compact, rfl, parseDocument_compact h⟩

/-- No bytes are the document without statements. -/
theorem encodes_empty (h : bytes.size = 0) : Encodes bytes [] := by
  have hbytes : bytes = "".toUTF8 := ByteArray.size_eq_zero_iff.1 h
  have hnone : Body.WellFormed [] := trivial
  rw [hbytes]
  exact encodes_compact hnone

theorem Encodes.wellFormed (h : Encodes bytes body) : body.WellFormed := by
  obtain ⟨text, -, hparse⟩ := h
  exact wellFormed_of_parseDocument hparse

/-! ## Formatting once -/

theorem format_of_encodes (h : Encodes bytes body) : format bytes = .ok body.canonical := by
  have hagain := parseDocument_canonical h.wellFormed
  obtain ⟨text, rfl, hparse⟩ := h
  rw [format, Text.Utf8.decode_toUTF8]
  show formatText text = _
  rw [formatText, hparse]
  dsimp only [Except.mapError, bind, Except.bind]
  rw [hagain]
  exact if_pos rfl

/-- Bytes that encode nothing are refused for what is wrong with them, and not for what formatting
made of them. -/
theorem format_of_encodesNothing (h : EncodesNothing bytes) :
    ∃ fault, format bytes = .error fault ∧
      ((∃ e, fault = .encoding e) ∨ ∃ e, fault = .unreadable e) := by
  rcases h with h | ⟨text, e, rfl, hparse⟩
  · cases hdecode : Text.Utf8.decode bytes with
    | ok text => exact absurd (Text.Utf8.decode_eq_ok_iff.1 hdecode) (h text)
    | error e =>
      refine ⟨.encoding e, ?_, .inl ⟨e, rfl⟩⟩
      rw [format, hdecode]
      rfl
  · refine ⟨.unreadable e, ?_, .inr ⟨e, rfl⟩⟩
    rw [format, Text.Utf8.decode_toUTF8]
    show formatText text = _
    rw [formatText, hparse]
    rfl

theorem EncodesNothing.not_encodes (h : EncodesNothing bytes) (body : Body) :
    ¬Encodes bytes body := by
  intro hencodes
  obtain ⟨fault, hfault, -⟩ := format_of_encodesNothing h
  exact absurd (hfault.symm.trans (format_of_encodes hencodes)) (by simp)

/-! ## Bytes and findings -/

/-- What comes of bytes that are refused: the bytes as they are, and one error. -/
def refused (bytes : ByteArray) (fault : Fault) : ByteArray × Diagnostics :=
  (bytes, [.error ("failed to format the output document: " ++ fault.message)])

theorem formatBytes_of_encodes (h : Encodes bytes body) :
    formatBytes bytes = (body.canonical.toUTF8, []) := by
  unfold formatBytes
  split
  · rename_i hsize
    have hempty := encodes_empty (beq_iff_eq.1 hsize)
    have hcanonical : body.canonical = Body.canonical [] :=
      Except.ok.inj ((format_of_encodes h).symm.trans (format_of_encodes hempty))
    rw [hcanonical, ByteArray.size_eq_zero_iff.1 (beq_iff_eq.1 hsize)]
    rfl
  · rw [format_of_encodes h]

theorem formatBytes_of_fault {fault : Fault} (hsize : bytes.size ≠ 0)
    (h : format bytes = .error fault) : formatBytes bytes = refused bytes fault := by
  unfold formatBytes
  rw [if_neg (by simpa using hsize), h]
  rfl

/-- Formatting returns its input with one error exactly if this is not empty and encodes nothing;
otherwise it has nothing to report, and what it returns encodes the same document. It is never
refused for what formatting made of it, and formatting what is returned changes nothing. -/
theorem formatBytes_faithful (bytes : ByteArray) :
    let result := formatBytes bytes
    ((∃ fault, result = refused bytes fault) ↔ bytes.size ≠ 0 ∧ EncodesNothing bytes) ∧
    ((∃ fault, result = refused bytes fault) ∨
      ∃ body, Encodes bytes body ∧ result.2 = [] ∧ Encodes result.1 body) ∧
    (∀ e, format bytes ≠ .error (.unreadableResult e)) ∧ format bytes ≠ .error .changed ∧
    (formatBytes result.1).1 = result.1 := by
  intro result
  rcases encodes_or_encodesNothing bytes with ⟨body, h⟩ | h
  · have hresult : result = (body.canonical.toUTF8, []) := formatBytes_of_encodes h
    have hagain : Encodes result.1 body := by
      rw [hresult]
      exact encodes_canonical h.wellFormed
    have hnot : ¬∃ fault, result = refused bytes fault := by
      rintro ⟨fault, hfault⟩
      exact absurd (hresult.symm.trans hfault) (by simp [refused])
    refine ⟨⟨fun hr => absurd hr hnot, fun hn => absurd h (hn.2.not_encodes body)⟩,
      .inr ⟨body, h, by rw [hresult], hagain⟩, ?_, ?_, ?_⟩
    · simp [format_of_encodes h]
    · simp [format_of_encodes h]
    · rw [formatBytes_of_encodes hagain, hresult]
  · have hsize : bytes.size ≠ 0 := fun hzero => h.not_encodes [] (encodes_empty hzero)
    obtain ⟨fault, hformat, hfault⟩ := format_of_encodesNothing h
    have hresult : result = refused bytes fault := formatBytes_of_fault hsize hformat
    refine ⟨⟨fun _ => ⟨hsize, h⟩, fun _ => ⟨fault, hresult⟩⟩, .inl ⟨fault, hresult⟩, ?_, ?_, ?_⟩
    · rintro e he
      rcases hfault with ⟨e', rfl⟩ | ⟨e', rfl⟩ <;> simp [hformat] at he
    · intro he
      rcases hfault with ⟨e', rfl⟩ | ⟨e', rfl⟩ <;> simp [hformat] at he
    · -- what is returned are the bytes themselves, so they are refused again
      rw [hresult]
      exact congrArg Prod.fst (formatBytes_of_fault hsize hformat)

end AgentConvert.Format
