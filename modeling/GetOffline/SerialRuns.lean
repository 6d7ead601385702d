import GetOffline.PipelineRules

set_option autoImplicit true

namespace GetOffline
open Python Effects Program

theorem fresh_of_no_rows : ∀ i, 1 ≤ i → (∅ : Table Nat Columns).lookup i = none :=
  fun _ _ => rfl

def Library.empty : Library where
  sources := ∅
  settings := ∅
  appSettings := ∅
  downloads := ⟨∅, 1, fresh_of_no_rows⟩
  database := Database.empty
  files := ∅

/-- A library, and the calls that a handler has made while it had the library to itself. -/
structure Serial where
  past : List Record
  library : Library

def HandlerOp.answer (host : Host) (reply : Reply) (op : HandlerOp β) (s : Serial) :
    Option (Except Error β × Serial) :=
  (op.run host reply s.library).map fun r => (r.1, ⟨s.past ++ [⟨op, r.1⟩], r.2⟩)

/-- A run of a handler that nothing else interferes with. -/
def runSerially (host : Host) (p : Handler α) (replies : List Reply) (s : Library) :
    Option (Except Error α × Serial) :=
  p.serve (HandlerOp.answer host) replies ⟨[], s⟩

/-- Nothing is asked of the calls; each is answered as the library has it. -/
def serial (host : Host) : Contract HandlerOp Error Serial where
  ok _ _ := True
  next s op r s' := ∃ reply, op.answer host reply s = some (r, s')

theorem runSerially_meets {p : Handler α} {Q : Except Error α → Serial → Prop}
    (h : p.Meets (serial host) Q ⟨[], s⟩) (hrun : runSerially host p replies s = some r) :
    Q r.1 r.2 := by
  apply Meets.serve h _ hrun
  intro β reply op s r hr
  exact ⟨reply, hr⟩

section
variable {host : Host} {s : Serial} {Q : Except Error α → Serial → Prop}
  {R : Except Error β → Serial → Prop} {op : HandlerOp α} {f : α → Handler β}

theorem serial_perform
    (h : ∀ reply r, op.run host reply s.library = some r → Q r.1 ⟨s.past ++ [⟨op, r.1⟩], r.2⟩) :
    (perform op).Meets (serial host) Q s := by
  apply meets_perform trivial
  rintro r s' ⟨reply, hr⟩
  obtain ⟨r', hrun, hr'⟩ := Option.map_eq_some_iff.1 hr
  obtain ⟨rfl, rfl⟩ := Prod.mk.inj hr'
  exact h reply r' hrun

theorem serial_bind
    (hok : ∀ reply r a, op.run host reply s.library = some r → r.1 = .ok a →
      (f a).Meets (serial host) R ⟨s.past ++ [⟨op, .ok a⟩], r.2⟩)
    (herror : ∀ reply r e, op.run host reply s.library = some r → r.1 = .error e →
      R (.error e) ⟨s.past ++ [⟨op, .error e⟩], r.2⟩) :
    (perform op >>= f).Meets (serial host) R s := by
  have hcall : (perform op : Handler α).Meets (serial host) (fun r s' =>
      ∃ reply library, op.run host reply s.library = some (r, library) ∧
        s' = ⟨s.past ++ [⟨op, r⟩], library⟩) s := by
    apply serial_perform
    intro reply r hr
    exact ⟨reply, r.2, hr, rfl⟩
  apply Meets.bind hcall
  · rintro a s' ⟨reply, library, hrun, rfl⟩
    exact hok reply _ a hrun rfl
  · rintro e s' ⟨reply, library, hrun, rfl⟩
    exact herror reply _ e hrun rfl

/-- A call that only reads the library, and what it answers unless it raises. -/
def HandlerOp.Reads (host : Host) (op : HandlerOp α) (s : Library) (a : α) : Prop :=
  ∀ reply r, op.run host reply s = some r → r.2 = s ∧ (r.1 = .ok a ∨ ∃ e, r.1 = .error e)

/-- A call that leaves the library as it is. -/
def HandlerOp.Leaves (host : Host) (op : HandlerOp α) (s : Library) : Prop :=
  ∀ reply r, op.run host reply s = some r → r.2 = s

theorem reads_of_settle {s : Library}
    (h : ∀ reply, op.run host reply s = some (Reply.settle reply (.ok (a, s)) s)) :
    op.Reads host s a := by
  intro reply r hr
  obtain rfl := Option.some.inj ((h reply).symm.trans hr)
  rcases Reply.settle_cases reply (.ok (a, s)) s with ⟨hs, hraised⟩ | ⟨a', s', hresult, hs, hanswer⟩
  · exact ⟨hs, .inr hraised⟩
  · obtain ⟨rfl, rfl⟩ := Prod.mk.inj (Except.ok.inj hresult)
    exact ⟨hs, hanswer⟩

theorem leaves_of_outside {s : Library} (answer : Reply → α)
    (h : ∀ reply, op.run host reply s = some (Reply.outside reply (answer reply) s)) :
    op.Leaves host s := by
  intro reply r hr
  obtain rfl := Option.some.inj ((h reply).symm.trans hr)
  rfl

theorem reads_bind (hop : op.Reads host s.library a)
    (hok : (f a).Meets (serial host) R ⟨s.past ++ [⟨op, .ok a⟩], s.library⟩)
    (herror : ∀ e, R (.error e) ⟨s.past ++ [⟨op, .error e⟩], s.library⟩) :
    (perform op >>= f).Meets (serial host) R s := by
  apply serial_bind
  · intro reply r a' hrun ha'
    obtain ⟨hs, ha | ⟨e, he⟩⟩ := hop reply r hrun
    · rw [ha'] at ha
      obtain rfl := Except.ok.inj ha
      rw [hs]
      exact hok
    · rw [ha'] at he
      cases he
  · intro reply r e hrun _
    rw [(hop reply r hrun).1]
    exact herror e

theorem leaves_bind (hop : op.Leaves host s.library)
    (hok : ∀ a, (f a).Meets (serial host) R ⟨s.past ++ [⟨op, .ok a⟩], s.library⟩)
    (herror : ∀ e, R (.error e) ⟨s.past ++ [⟨op, .error e⟩], s.library⟩) :
    (perform op >>= f).Meets (serial host) R s := by
  apply serial_bind
  · intro reply r a hrun _
    rw [hop reply r hrun]
    exact hok a
  · intro reply r e hrun _
    rw [hop reply r hrun]
    exact herror e

end

end GetOffline
