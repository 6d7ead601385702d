import GetOffline.FileTree

set_option autoImplicit true

namespace FileTree

/-- The name that the links lead to at last. -/
inductive LeadsTo [DecidableEq ν] (t : FileTree ν γ) : ν → ν → Prop
  | here : (∀ next, t.lookup name ≠ some (.link next)) → LeadsTo t name name
  | link : t.lookup name = some (.link next) → LeadsTo t next last → LeadsTo t name last

/-- The name at the end of the links, over so many names at most. -/
def target [DecidableEq ν] : Nat → ν → FileTree ν γ → Option ν
  | 0, _, _ => none
  | n + 1, name, t =>
    match t.lookup name with
    | some (.link next) => target n next t
    | _ => some name

section
variable [DecidableEq ν] {t u : FileTree ν γ} {name next last : ν}

theorem target_link (h : t.lookup name = some (.link next)) (n : Nat) :
    t.target (n + 1) name = t.target n next := by
  rw [target, h]

theorem target_here (h : ∀ next, t.lookup name ≠ some (.link next)) (n : Nat) :
    t.target (n + 1) name = some name := by
  rw [target]
  split
  · next next hnext => exact absurd hnext (h next)
  · rfl

/-- A name is a link, or the end of its own. -/
theorem link_or_here (t : FileTree ν γ) (name : ν) :
    (∃ next, t.lookup name = some (.link next)) ∨ ∀ next, t.lookup name ≠ some (.link next) := by
  by_cases h : ∃ next, t.lookup name = some (.link next)
  · exact .inl h
  · exact .inr fun next hnext => h ⟨next, hnext⟩

theorem LeadsTo.end_not_link (h : t.LeadsTo name last) (next : ν) :
    t.lookup last ≠ some (.link next) := by
  induction h with
  | here hname => exact hname next
  | link _ _ ih => exact ih

theorem LeadsTo.unique (h : t.LeadsTo name last) (h' : t.LeadsTo name other) : last = other := by
  induction h with
  | here hname =>
    cases h' with
    | here => rfl
    | link hnext => exact absurd hnext (hname _)
  | link hnext _ ih =>
    cases h' with
    | here hname => exact absurd hnext (hname _)
    | link hnext' hrest =>
      rw [hnext] at hnext'
      obtain rfl := Entry.link.inj (Option.some.inj hnext')
      exact ih hrest

theorem leadsTo_self_iff : t.LeadsTo name name ↔ ∀ next, t.lookup name ≠ some (.link next) :=
  ⟨fun h => h.end_not_link, .here⟩

theorem LeadsTo.of_target (h : t.target n name = some last) : t.LeadsTo name last := by
  induction n generalizing name with
  | zero => cases h
  | succ n ih =>
    rcases t.link_or_here name with ⟨next, hnext⟩ | hname
    · rw [target_link hnext] at h
      exact .link hnext (ih h)
    · rw [target_here hname] at h
      obtain rfl := Option.some.inj h
      exact .here hname

theorem LeadsTo.target (h : t.LeadsTo name last) : ∃ n, t.target n name = some last := by
  induction h with
  | here hname => exact ⟨1, target_here hname 0⟩
  | link hnext _ ih =>
    obtain ⟨n, hn⟩ := ih
    exact ⟨n + 1, by rw [target_link hnext, hn]⟩

/-- A way that does not come by an entry is there without it. -/
theorem target_erase (h : t.target n next = some last) (hpast : ∀ m ≤ n, t.target m name ≠ some last) :
    FileTree.target n next (AList.erase name t) = some last := by
  induction n generalizing next with
  | zero => cases h
  | succ n ih =>
    have hne : next ≠ name := by
      rintro rfl
      exact hpast _ le_rfl h
    have hsame : AList.lookup next (AList.erase name t) = t.lookup next := AList.lookup_erase_ne hne
    rcases t.link_or_here next with ⟨after, hafter⟩ | hnext
    · rw [target_link hafter] at h
      rw [target_link (hsame.trans hafter)]
      exact ih h fun m hm => hpast m (Nat.le_succ_of_le hm)
    · rw [target_here hnext] at h
      rw [target_here]
      · exact h
      · intro after
        rw [hsame]
        exact hnext after

/-- A way that is there without an entry is there with it, unless it ends at the entry. -/
theorem target_of_erase (h : FileTree.target n next (AList.erase name t) = some last)
    (hlast : last ≠ name) : t.target n next = some last := by
  induction n generalizing next with
  | zero => cases h
  | succ n ih =>
    by_cases hne : next = name
    · subst hne
      have hgone : ∀ after, AList.lookup next (AList.erase next t) ≠ some (.link after) := by
        intro after hafter
        rw [AList.lookup_erase] at hafter
        cases hafter
      rw [target_here hgone] at h
      exact absurd (Option.some.inj h).symm hlast
    · have hsame : AList.lookup next (AList.erase name t) = t.lookup next := AList.lookup_erase_ne hne
      rcases t.link_or_here next with ⟨after, hafter⟩ | hnext
      · rw [target_link (hsame.trans hafter)] at h
        rw [target_link hafter]
        exact ih h
      · rw [target_here] at h
        · rw [target_here hnext]
          exact h
        · intro after
          rw [hsame]
          exact hnext after

/-- No way comes by more names than there are: one that comes by a name again goes round in a circle. -/
theorem target_of_any (h : t.target n name = some last) :
    t.target (t.keys.length + 1) name = some last := by
  induction n using Nat.strong_induction_on generalizing t name with
  | h n ih =>
    cases n with
    | zero => cases h
    | succ n =>
      rcases t.link_or_here name with ⟨next, hnext⟩ | hname
      · by_cases hback : ∃ m ≤ n, t.target m name = some last
        · obtain ⟨m, hm, hshort⟩ := hback
          exact ih m (Nat.lt_succ_of_le hm) hshort
        · have hpast : ∀ m ≤ n, t.target m name ≠ some last := fun m hm hshort => hback ⟨m, hm, hshort⟩
          rw [target_link hnext] at h
          have hlast : last ≠ name := by
            rintro rfl
            exact (LeadsTo.of_target h).end_not_link next hnext
          have hrest := ih n (Nat.lt_succ_self n) (target_erase h hpast)
          have hmem : name ∈ t.keys := AList.mem_keys.1 (AList.lookup_isSome.1 (by rw [hnext]; rfl))
          have hlength : (AList.erase name t).keys.length + 1 = t.keys.length := by
            rw [AList.keys_erase, List.length_erase_of_mem hmem]
            exact Nat.sub_add_cancel (List.length_pos_of_mem hmem)
          rw [hlength] at hrest
          rw [target_link hnext]
          exact target_of_erase hrest hlast
      · rw [target_here hname] at h ⊢
        exact h

theorem target_eq_some_iff : t.target (t.keys.length + 1) name = some last ↔ t.LeadsTo name last := by
  constructor
  · exact LeadsTo.of_target
  · intro h
    obtain ⟨n, hn⟩ := h.target
    exact target_of_any hn

/-- The links lead to a file. -/
def LeadsToFile (t : FileTree ν γ) (name file : ν) : Prop :=
  t.LeadsTo name file ∧ ∃ content, t.lookup file = some (.file content)

theorem LeadsToFile.unique (h : t.LeadsToFile name file) (h' : t.LeadsToFile name other) : file = other :=
  h.1.unique h'.1

/-- A content is found at the end of the links. -/
theorem LeadsTo.of_follow (h : t.follow n name = some content) :
    ∃ file, t.LeadsTo name file ∧ t.lookup file = some (.file content) := by
  induction n generalizing name with
  | zero => cases h
  | succ n ih =>
    rw [follow] at h
    split at h
    · next next hnext =>
      obtain ⟨file, hleads, hfile⟩ := ih h
      exact ⟨file, .link hnext hleads, hfile⟩
    · next content' hfile =>
      obtain rfl := Option.some.inj h
      refine ⟨name, .here ?_, hfile⟩
      intro next hnext
      rw [hfile] at hnext
      cases hnext
    · cases h

theorem LeadsToFile.of_follow (h : t.follow n name = some content) : ∃ file, t.LeadsToFile name file := by
  obtain ⟨file, hleads, hfile⟩ := LeadsTo.of_follow h
  exact ⟨file, hleads, content, hfile⟩

theorem leadsToFile_self_iff : t.LeadsToFile name name ↔ ∃ content, t.lookup name = some (.file content) := by
  constructor
  · exact fun h => h.2
  · rintro ⟨content, hfile⟩
    refine ⟨.here ?_, content, hfile⟩
    intro next hnext
    rw [hfile] at hnext
    cases hnext

end

end FileTree
