import Mathlib.Data.List.Basic

set_option autoImplicit true

namespace Python

/-- `text.encode()`: UTF-8. -/
def encode (text : String) : List UInt8 :=
  text.toList.flatMap String.utf8EncodeChar

theorem encode_append (a b : String) : encode (a ++ b) = encode a ++ encode b := by
  rw [encode, String.toList_append, List.flatMap_append, encode, encode]

/-- A byte below 128 stands for its own character. -/
theorem mem_utf8EncodeChar {b : UInt8} (hb : b.toNat < 128) {c : Char} :
    b ∈ String.utf8EncodeChar c ↔ c.toNat = b.toNat := by
  have hhigh (n : Nat) (h : 128 ≤ n % 256) : b ≠ UInt8.ofNat n := by
    rintro rfl
    rw [UInt8.toNat_ofNat'] at hb
    omega
  unfold String.utf8EncodeChar
  dsimp only
  split
  · next hone =>
    rw [List.mem_singleton, ← UInt8.toNat_inj, UInt8.toNat_ofNat', Nat.mod_eq_of_lt (by omega)]
    exact eq_comm
  · next hmore =>
    refine iff_of_false ?_ ?_
    · split
      · simp only [List.mem_cons, List.not_mem_nil, or_false, not_or]
        exact ⟨hhigh _ (by omega), hhigh _ (by omega)⟩
      · split
        · simp only [List.mem_cons, List.not_mem_nil, or_false, not_or]
          exact ⟨hhigh _ (by omega), hhigh _ (by omega), hhigh _ (by omega)⟩
        · simp only [List.mem_cons, List.not_mem_nil, or_false, not_or]
          exact ⟨hhigh _ (by omega), hhigh _ (by omega), hhigh _ (by omega), hhigh _ (by omega)⟩
    · intro h
      have hval : c.toNat = c.val.toNat := rfl
      omega

theorem mem_encode {c : Char} (hc : c.toNat < 128) {text : String} :
    UInt8.ofNat c.toNat ∈ encode text ↔ c ∈ text.toList := by
  have hbyte : (UInt8.ofNat c.toNat).toNat = c.toNat := by
    rw [UInt8.toNat_ofNat', Nat.mod_eq_of_lt (by omega)]
  rw [encode, List.mem_flatMap]
  constructor
  · rintro ⟨d, hd, hmem⟩
    rw [mem_utf8EncodeChar (by omega), hbyte] at hmem
    rwa [← Char.toNat_inj.1 hmem]
  · intro h
    exact ⟨c, h, (mem_utf8EncodeChar (by omega)).2 hbyte.symm⟩

end Python
