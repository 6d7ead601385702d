import GetOffline.PythonEncode
import GetOffline.PythonText

set_option autoImplicit true

namespace Python

def base64Alphabet : List Char :=
  "ABCDEFGHIJKLMNOPQRSTUVWXYZabcdefghijklmnopqrstuvwxyz0123456789+/".toList

def base64Char (digit : Nat) : Char :=
  base64Alphabet.getD (digit % 64) 'A'

def base64Digit (c : Char) : Option Nat :=
  base64Alphabet.findIdx? fun d => d = c

/-- `base64.b64encode(bytes)`: three bytes become four characters, and the last ones are padded. -/
def b64encode : List UInt8 → List Char
  | [] => []
  | [a] => [base64Char (a.toNat / 4), base64Char (a.toNat % 4 * 16), '=', '=']
  | [a, b] => [base64Char (a.toNat / 4), base64Char (a.toNat % 4 * 16 + b.toNat / 16),
    base64Char (b.toNat % 16 * 4), '=']
  | a :: b :: c :: bytes => base64Char (a.toNat / 4) ::
    base64Char (a.toNat % 4 * 16 + b.toNat / 16) ::
    base64Char (b.toNat % 16 * 4 + c.toNat / 64) :: base64Char (c.toNat % 64) :: b64encode bytes

/-- Where `binascii.a2b_base64` stands: the place in the group of four, the bits that are left of the
last character, and the padding that it has seen. -/
structure Base64State where
  quadPos : Nat
  leftchar : Nat
  pads : Nat
  paddingStarted : Bool

namespace Base64State

def start : Base64State := ⟨0, 0, 0, false⟩

/-- A character of the alphabet, and the byte that it completes. -/
def push (digit : Nat) (s : Base64State) : List UInt8 × Base64State :=
  match s.quadPos with
  | 0 => ([], ⟨1, digit, 0, false⟩)
  | 1 => ([UInt8.ofNat (s.leftchar * 4 + digit / 16)], ⟨2, digit % 16, 0, false⟩)
  | 2 => ([UInt8.ofNat (s.leftchar * 16 + digit / 4)], ⟨3, digit % 4, 0, false⟩)
  | _ => ([UInt8.ofNat (s.leftchar * 64 + digit)], ⟨0, 0, 0, false⟩)

/-- The loop of `binascii.a2b_base64(data, strict_mode=True)`; `none` is a `binascii.Error`. -/
def run : Base64State → List Char → Option (List UInt8)
  | s, [] => if s.quadPos = 0 then some [] else none
  | s, c :: cs =>
    if c = '=' then
      if 2 ≤ s.quadPos ∧ 4 ≤ s.quadPos + (s.pads + 1) then if cs = [] then some [] else none
      else run { s with
        pads := if 2 ≤ s.quadPos then s.pads + 1 else s.pads
        paddingStarted := true } cs
    else
      match base64Digit c with
      | none => none
      | some digit =>
        if s.paddingStarted then none
        else ((s.push digit).2.run cs).map ((s.push digit).1 ++ ·)

end Base64State

def binasciiError : Error := .other "binascii.Error"

/-- `base64.b64decode(text, validate=True)`. -/
def b64decode (text : List Char) : Except Error (List UInt8) :=
  if text.any fun c => 128 ≤ c.toNat then .error .valueError
  else if text.head? = some '=' then .error binasciiError
  else ((Base64State.start.run text).elim (.error binasciiError) .ok)

/-- `bytes.decode("utf-8")`. -/
def decodeBytes (bytes : List UInt8) : Except Error String :=
  match bytes.toByteArray.utf8Decode? with
  | some chars => .ok (String.ofList chars.toList)
  | none => .error .unicodeDecodeError

theorem base64Char_spec (digit : Fin 64) :
    base64Digit (base64Char digit) = some digit.val ∧ base64Char digit ≠ '=' ∧
      33 ≤ (base64Char digit).toNat ∧ (base64Char digit).toNat ≤ 126 := by
  revert digit
  decide

theorem base64Char_mod (digit : Nat) : base64Char (digit % 64) = base64Char digit := by
  rw [base64Char, Nat.mod_mod, base64Char]

theorem base64Digit_char (h : digit < 64) : base64Digit (base64Char digit) = some digit :=
  (base64Char_spec ⟨digit, h⟩).1

theorem base64Char_ne_pad (digit : Nat) : base64Char digit ≠ '=' := by
  rw [← base64Char_mod]
  exact (base64Char_spec ⟨digit % 64, Nat.mod_lt _ (by decide)⟩).2.1

theorem base64Char_printable (digit : Nat) :
    33 ≤ (base64Char digit).toNat ∧ (base64Char digit).toNat ≤ 126 := by
  rw [← base64Char_mod]
  exact (base64Char_spec ⟨digit % 64, Nat.mod_lt _ (by decide)⟩).2.2

namespace Base64State

theorem run_char {s : Base64State} (hs : s.paddingStarted = false) (h : digit < 64) (cs : List Char) :
    s.run (base64Char digit :: cs) = ((s.push digit).2.run cs).map ((s.push digit).1 ++ ·) := by
  rw [run, if_neg (base64Char_ne_pad digit), base64Digit_char h]
  simp only [hs, Bool.false_eq_true, ↓reduceIte]

theorem run_first (h : digit < 64) (cs : List Char) :
    start.run (base64Char digit :: cs) = run ⟨1, digit, 0, false⟩ cs := by
  rw [run_char rfl h]
  exact Option.map_id'

section
variable {b : UInt8} {left : Nat} (hdigit : digit < 64) (cs : List Char)
include hdigit

theorem run_second (h : left * 4 + digit / 16 = b.toNat) :
    run ⟨1, left, 0, false⟩ (base64Char digit :: cs) =
      (run ⟨2, digit % 16, 0, false⟩ cs).map (b :: ·) := by
  rw [run_char rfl hdigit]
  dsimp only [push]
  rw [h, UInt8.ofNat_toNat]
  rfl

theorem run_third (h : left * 16 + digit / 4 = b.toNat) :
    run ⟨2, left, 0, false⟩ (base64Char digit :: cs) =
      (run ⟨3, digit % 4, 0, false⟩ cs).map (b :: ·) := by
  rw [run_char rfl hdigit]
  dsimp only [push]
  rw [h, UInt8.ofNat_toNat]
  rfl

theorem run_fourth (h : left * 64 + digit = b.toNat) :
    run ⟨3, left, 0, false⟩ (base64Char digit :: cs) = (start.run cs).map (b :: ·) := by
  rw [run_char rfl hdigit]
  dsimp only [push]
  rw [h, UInt8.ofNat_toNat]
  rfl

end

/-- The characters of a group of four give its bytes back. -/
theorem run_b64encode (bytes : List UInt8) : start.run (b64encode bytes) = some bytes := by
  induction bytes using b64encode.induct with
  | case1 => rfl
  | case2 a =>
    have ha := a.toNat_lt
    rw [b64encode, run_first (by omega), run_second (b := a) (by omega) _ (by omega)]
    rfl
  | case3 a b =>
    have ha := a.toNat_lt
    have hb := b.toNat_lt
    rw [b64encode, run_first (by omega), run_second (b := a) (by omega) _ (by omega),
      run_third (b := b) (by omega) _ (by omega)]
    rfl
  | case4 a b c bytes ih =>
    have ha := a.toNat_lt
    have hb := b.toNat_lt
    have hc := c.toNat_lt
    rw [b64encode, run_first (by omega), run_second (b := a) (by omega) _ (by omega),
      run_third (b := b) (by omega) _ (by omega), run_fourth (b := c) (by omega) _ (by omega), ih]
    rfl

end Base64State

theorem printable_b64encode (bytes : List UInt8) :
    ∀ c ∈ b64encode bytes, 33 ≤ c.toNat ∧ c.toNat ≤ 126 := by
  induction bytes using b64encode.induct with
  | case1 => exact List.forall_mem_nil _
  | case2 a => simp [b64encode, base64Char_printable]
  | case3 a b => simp [b64encode, base64Char_printable]
  | case4 a b c bytes ih =>
    simp only [b64encode, List.forall_mem_cons, base64Char_printable, and_self, true_and]
    exact ih

theorem head_b64encode (bytes : List UInt8) : (b64encode bytes).head? ≠ some '=' := by
  have hchar (digit : Nat) : some (base64Char digit) ≠ some '=' := by
    intro h
    exact base64Char_ne_pad digit (Option.some.inj h)
  cases bytes using b64encode.fun_cases with
  | case1 =>
    intro h
    cases h
  | case2 a => exact hchar _
  | case3 a b => exact hchar _
  | case4 a b c bytes => exact hchar _

/-- What has been encoded is decoded to the same bytes. -/
theorem b64decode_b64encode (bytes : List UInt8) : b64decode (b64encode bytes) = .ok bytes := by
  have hascii : ((b64encode bytes).any fun c => 128 ≤ c.toNat) = false := by
    rw [List.any_eq_false]
    intro c hc h
    have hle := (printable_b64encode bytes c hc).2
    have hge := of_decide_eq_true h
    omega
  rw [b64decode, hascii, if_neg Bool.false_ne_true, if_neg (head_b64encode bytes),
    Base64State.run_b64encode]
  rfl

theorem decodeBytes_encode (text : String) : decodeBytes (encode text) = .ok text := by
  have hbytes : (encode text).toByteArray = text.toList.utf8Encode := rfl
  rw [decodeBytes, hbytes, List.utf8Decode?_utf8Encode]
  dsimp only
  rw [String.ofList_toList]

/-- Only what is the encoding of a text is decoded. -/
theorem encode_of_decodeBytes {bytes : List UInt8} (h : decodeBytes bytes = .ok text) :
    encode text = bytes := by
  unfold decodeBytes at h
  split at h
  · next chars hchars =>
    obtain rfl := Except.ok.inj h
    have hsome : bytes.toByteArray.utf8Decode?.isSome := by
      rw [hchars]
      rfl
    have hbytes := ByteArray.utf8Encode_get_utf8Decode? (h := hsome)
    simp only [hchars, Option.get_some] at hbytes
    rw [← List.toByteArray_inj, ← hbytes, encode, String.toList_ofList]
    rfl
  · cases h

end Python
