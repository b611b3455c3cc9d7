/-!
# UTF-8

Texts from bytes, and where bytes stop being the encoding of a text: the first sequence that is
not one, with the count of its bytes that could still start a sequence, or the end of the input
inside a sequence.
-/

namespace AgentConvert.Text.Utf8

/-- Why bytes are not UTF-8. -/
inductive Fault where
  /-- The `length` bytes from `index` on start no sequence. -/
  | invalid (index length : Nat)
  /-- The input ends inside the sequence that starts at `index`. -/
  | incomplete (index : Nat)
  deriving DecidableEq

def Fault.message : Fault → String
  | invalid index length =>
    "invalid utf-8 sequence of " ++ toString length ++ " bytes from index " ++ toString index
  | incomplete index => "incomplete utf-8 byte sequence from index " ++ toString index

/-- The ranges of the bytes that go on a sequence with the first byte `b`, or `none` when no
sequence starts with it. -/
def continuations? (b : UInt8) : Option (List (UInt8 × UInt8)) :=
  if b < 0x80 then some []
  else if 0xc2 ≤ b && b ≤ 0xdf then some [(0x80, 0xbf)]
  else if b == 0xe0 then some [(0xa0, 0xbf), (0x80, 0xbf)]
  else if b == 0xed then some [(0x80, 0x9f), (0x80, 0xbf)]
  else if 0xe1 ≤ b && b ≤ 0xef then some [(0x80, 0xbf), (0x80, 0xbf)]
  else if b == 0xf0 then some [(0x90, 0xbf), (0x80, 0xbf), (0x80, 0xbf)]
  else if 0xf1 ≤ b && b ≤ 0xf3 then some [(0x80, 0xbf), (0x80, 0xbf), (0x80, 0xbf)]
  else if b == 0xf4 then some [(0x80, 0x8f), (0x80, 0xbf), (0x80, 0xbf)]
  else none

/-- How a sequence goes on. -/
inductive Continuation where
  | complete (rest : List UInt8)
  | broken (taken : Nat)
  | atEnd

/-- Takes a byte from each of `ranges`, after `taken` bytes. -/
def takeRanges (taken : Nat) : List (UInt8 × UInt8) → List UInt8 → Continuation
  | [], rest => .complete rest
  | _ :: _, [] => .atEnd
  | (low, high) :: ranges, b :: rest =>
    if low ≤ b && b ≤ high then takeRanges (taken + 1) ranges rest else .broken taken

theorem length_takeRanges {taken : Nat} {ranges : List (UInt8 × UInt8)} {bytes rest : List UInt8}
    (h : takeRanges taken ranges bytes = .complete rest) : rest.length ≤ bytes.length := by
  fun_induction takeRanges taken ranges bytes with
  | case1 => simp_all
  | case2 => simp at h
  | case3 taken ranges low high b rest' _ ih =>
    have := ih h
    rw [List.length_cons]
    omega
  | case4 => simp at h

/-- The first place at or after `index` where `bytes` stop being UTF-8. -/
def locate? (index : Nat) (bytes : List UInt8) : Option Fault :=
  match bytes with
  | [] => none
  | b :: rest =>
    match continuations? b with
    | none => some (.invalid index 1)
    | some ranges =>
      match _h : takeRanges 1 ranges rest with
      | .complete rest' => locate? (index + 1 + ranges.length) rest'
      | .broken taken => some (.invalid index taken)
      | .atEnd => some (.incomplete index)
  termination_by bytes.length
  decreasing_by
    have := length_takeRanges _h
    rw [List.length_cons]
    omega

/-- The text that `bytes` encode. -/
def decode (bytes : ByteArray) : Except Fault String :=
  match String.fromUTF8? bytes with
  | some s => .ok s
  | none => .error ((locate? 0 bytes.data.toList).getD (.incomplete bytes.size))

/-- Bytes are decoded as the text that they are the encoding of. -/
theorem decode_eq_ok_iff {bytes : ByteArray} {s : String} :
    decode bytes = .ok s ↔ bytes = s.toUTF8 := by
  constructor
  · intro h
    unfold decode at h
    split at h
    · rename_i t ht
      obtain rfl := Except.ok.inj h
      unfold String.fromUTF8? at ht
      split at ht
      · obtain rfl := Option.some.inj ht
        rfl
      · exact absurd ht (by simp)
    · exact absurd h (by simp)
  · rintro rfl
    have h : String.fromUTF8? s.toUTF8 = some s := by
      simp only [String.fromUTF8?, String.toUTF8_eq_toByteArray]
      rw [dif_pos s.isValidUTF8]
      rfl
    simp only [decode, h]

theorem decode_toUTF8 (s : String) : decode s.toUTF8 = .ok s := decode_eq_ok_iff.2 rfl

end AgentConvert.Text.Utf8
