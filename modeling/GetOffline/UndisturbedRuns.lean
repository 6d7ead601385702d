import GetOffline.SerialRuns

set_option autoImplicit true

namespace GetOffline
open Python Effects Program

/-- What is reckoned with of other programs: `ffmpeg` leaves a file or nothing at its output, and
subtitles are put beside their media. -/
def HandlerOp.Fair : HandlerOp β → Reply → Prop
  | .runFfmpeg _ _ _, reply => reply.node ≠ some .directory
  | .createSubtitles media _ _ _ _, reply =>
    ∀ subtitle, reply.subtitle = some subtitle → subtitle.parent = media.parent
  | _, _ => True

/-- A handler that nothing else interferes with, and what is asked of each of its calls in the library that
it finds. -/
def undisturbed (host : Host) (permits : Library → {β : Type} → HandlerOp β → Prop) :
    Contract HandlerOp Error Library where
  ok s op := permits s op
  next s op r t := ∃ reply, op.Fair reply ∧ op.run host reply s = some (r, t)

/-- Nothing is asked of the calls. -/
abbrev alone (host : Host) : Contract HandlerOp Error Library :=
  undisturbed host fun _ {_} _ => True

/-- The library satisfies the one predicate however the program ends, and the other one if it returns. -/
def Ends (I : Library → Prop) (S : α → Library → Prop) (r : Except Error α) (s : Library) : Prop :=
  I s ∧ ∀ a, r = .ok a → S a s

theorem Ends.ok (hI : I s) (hS : S a s) : Ends I S (.ok a) s := by
  refine ⟨hI, ?_⟩
  intro a' ha
  obtain rfl := Except.ok.inj ha
  exact hS

theorem Ends.error (hI : I s) (e : Error) : Ends I S (.error e) s := by
  refine ⟨hI, ?_⟩
  intro a ha
  cases ha

/-- The call leaves the library as it is. -/
theorem HandlerOp.IsQuery.run_eq {op : HandlerOp β} (hop : op.IsQuery)
    (h : op.run host reply s = some r) : r.2 = s := by
  have hsettle {P : Library → Prop} (answer : β) (hs : P s) : P (reply.settle (.ok (answer, s)) s).2 :=
    reply.settle_ok answer hs hs
  cases op with
  | now =>
    obtain rfl := Option.some.inj h
    rfl
  | candidates source =>
    obtain rfl := Option.some.inj h
    rfl
  | resolveSourceName url =>
    obtain rfl := Option.some.inj h
    rfl
  | downloadEvents url =>
    obtain rfl := Option.some.inj h
    rfl
  | prepareFilename info =>
    obtain rfl := Option.some.inj h
    rfl
  | subtitleSegments subtitle =>
    obtain rfl := Option.some.inj h
    rfl
  | downloadById pk profileId =>
    obtain rfl := Option.some.inj h
    exact reply.settle_map (P := fun t => t = s) _ rfl fun _ _ => rfl
  | targetPath source targetExt =>
    obtain ⟨result, -, rfl⟩ := Option.map_eq_some_iff.1 h
    exact reply.settle_map (P := fun t => t = s) _ rfl fun _ _ => rfl
  | profileSetting profileId key =>
    obtain rfl := Option.some.inj h
    exact hsettle (P := fun t => t = s) _ rfl
  | appSetting key =>
    obtain rfl := Option.some.inj h
    exact hsettle (P := fun t => t = s) _ rfl
  | sourceNamed profileId sourceType sourceName =>
    obtain rfl := Option.some.inj h
    exact hsettle (P := fun t => t = s) _ rfl
  | downloadExists lookup =>
    obtain rfl := Option.some.inj h
    exact hsettle (P := fun t => t = s) _ rfl
  | node path =>
    obtain rfl := Option.some.inj h
    exact hsettle (P := fun t => t = s) _ rfl
  | _ => exact hop.elim

section
variable {host : Host} {permits : Library → {β : Type} → HandlerOp β → Prop} {s : Library}
  {I : Library → Prop} {S : α → Library → Prop} {T : β → Library → Prop} {p : Handler α} {op : HandlerOp α}
  {f : α → Handler β}

theorem ends_pure (hI : I s) (hS : S a s) :
    (pure a : Handler α).Meets (undisturbed host permits) (Ends I S) s :=
  meets_pure.2 (.ok hI hS)

theorem ends_raise (hI : I s) (e : Error) :
    (raise e : Handler α).Meets (undisturbed host permits) (Ends I S) s :=
  meets_raise.2 (.error hI e)

theorem ends_bind (hp : p.Meets (undisturbed host permits) (Ends I S) s)
    (hf : ∀ a t, I t → S a t → (f a).Meets (undisturbed host permits) (Ends I T) t) :
    (p >>= f).Meets (undisturbed host permits) (Ends I T) s := by
  apply Meets.bind hp
  · intro a t h
    exact hf a t h.1 (h.2 a rfl)
  · intro e t h
    exact .error h.1 e

theorem ends_perform (hpermits : permits s op)
    (h : ∀ reply r, op.Fair reply → op.run host reply s = some r → Ends I S r.1 r.2) :
    (perform op).Meets (undisturbed host permits) (Ends I S) s := by
  apply meets_perform hpermits
  rintro r t ⟨reply, hfair, hrun⟩
  exact h reply (r, t) hfair hrun

/-- What comes after one call. -/
theorem ends_call (hpermits : permits s op)
    (h : ∀ reply r, op.Fair reply → op.run host reply s = some r →
      I r.2 ∧ ∀ a, r.1 = .ok a → (f a).Meets (undisturbed host permits) (Ends I T) r.2) :
    (perform op >>= f).Meets (undisturbed host permits) (Ends I T) s := by
  have hcall : (perform op).Meets (undisturbed host permits)
      (Ends I fun a t => (f a).Meets (undisturbed host permits) (Ends I T) t) s :=
    ends_perform hpermits h
  exact ends_bind hcall fun a t _ hrest => hrest

/-- What comes after a call whose answer the library tells. -/
theorem ends_read (hop : op.Reads host s a) (hpermits : permits s op) (hI : I s)
    (hf : (f a).Meets (undisturbed host permits) (Ends I T) s) :
    (perform op >>= f).Meets (undisturbed host permits) (Ends I T) s := by
  apply ends_call hpermits
  intro reply r _ hrun
  obtain ⟨hs, ha | ⟨e, he⟩⟩ := hop reply r hrun
  · rw [hs]
    refine ⟨hI, ?_⟩
    intro a' ha'
    rw [ha] at ha'
    obtain rfl := Except.ok.inj ha'
    exact hf
  · rw [hs]
    refine ⟨hI, ?_⟩
    intro a' ha'
    rw [he] at ha'
    cases ha'

/-- What comes after a program that only asks. -/
theorem ends_asks (hp : Asks p) (hpermits : ∀ {γ : Type} (op : HandlerOp γ), op.IsQuery → permits s op)
    (hI : I s) (hf : ∀ a, (f a).Meets (undisturbed host permits) (Ends I T) s) :
    (p >>= f).Meets (undisturbed host permits) (Ends I T) s := by
  have hasked : p.Meets (undisturbed host permits) (fun r t => t = s ∧ ∀ a, r = .ok a → True) s := by
    apply Yields.meets (I := fun t => t = s) hp
    · rintro γ op t hop rfl
      exact hpermits op hop
    · rintro γ op t r t' hop rfl ⟨reply, -, hrun⟩
      exact hop.run_eq hrun
    · rfl
  apply Meets.bind hasked
  · rintro a t ⟨rfl, -⟩
    exact hf a
  · rintro e t ⟨rfl, -⟩
    exact .error hI e

theorem reads_node (path : Path) : (HandlerOp.node path).Reads host s (s.files.node host path) :=
  reads_of_settle fun _ => rfl

end

theorem Files.node_put (host : Host) (path : Path) (node : Option Node) (files : Files) (other : Path) :
    (files.put host path node).node host other =
      if host.real other = host.real path then node else files.node host other := by
  cases node with
  | none =>
    have h := congrFun (Table.lookup_erase_eq (host.real path) files) (host.real other)
    simp only [Function.update_apply] at h
    exact h
  | some node =>
    have h := congrFun (Table.lookup_insert_eq (host.real path) node files) (host.real other)
    simp only [Function.update_apply] at h
    exact h

theorem Files.node_real (host : Host) (path : Path) (files : Files) :
    files.node host (host.real path) = files.node host path := by
  rw [Files.node, host.real_real, Files.node]

/-- At most the files have changed, and what stood somewhere still stands there. -/
structure Grown (host : Host) (s t : Library) : Prop where
  rest : s.ChangesFiles t
  kept : ∀ path, s.files.node host path ≠ none → t.files.node host path = s.files.node host path

section
variable {host : Host} {s t : Library}

theorem Grown.refl (host : Host) (s : Library) : Grown host s s :=
  ⟨s.changesFiles s.files, fun _ _ => rfl⟩

theorem Grown.downloads (h : Grown host s t) : t.downloads = s.downloads := by
  obtain ⟨files, rfl⟩ := h.rest
  rfl

theorem Grown.settings (h : Grown host s t) : t.settings = s.settings := by
  obtain ⟨files, rfl⟩ := h.rest
  rfl

theorem Grown.trans (h : Grown host s t) (h' : Grown host t u) : Grown host s u := by
  constructor
  · obtain ⟨files, rfl⟩ := h.rest
    obtain ⟨files', rfl⟩ := h'.rest
    exact s.changesFiles files'
  · intro path hpath
    have hkept := h.kept path hpath
    rw [← hkept] at hpath ⊢
    exact h'.kept path hpath

theorem Grown.of_none (h : Grown host s t) (hnone : t.files.node host path = none) :
    s.files.node host path = none := by
  by_contra hsome
  rw [h.kept path hsome] at hnone
  exact hsome hnone

/-- Something is put where nothing stood at first. -/
theorem Grown.put (h : Grown host s t) (hfree : s.files.node host path = none) (node : Option Node) :
    Grown host s { t with files := t.files.put host path node } := by
  constructor
  · obtain ⟨files, rfl⟩ := h.rest
    exact s.changesFiles _
  · intro other hother
    rw [Files.node_put, if_neg]
    · exact h.kept other hother
    · intro hsame
      apply hother
      rw [Files.node, hsame]
      exact hfree

theorem Grown.mkdir (h : Grown host s t) (hmkdir : t.files.mkdir host path = .ok files) :
    Grown host s { t with files } := by
  unfold Files.mkdir at hmkdir
  split at hmkdir
  · obtain rfl := Except.ok.inj hmkdir
    exact h
  · cases hmkdir
  · next hnone =>
    obtain rfl := Except.ok.inj hmkdir
    exact h.put (h.of_none hnone) _

theorem Grown.unlink (h : Grown host s t) (hfree : s.files.node host path = none)
    (hunlink : t.files.unlink host path = .ok files) : Grown host s { t with files } := by
  unfold Files.unlink at hunlink
  split at hunlink
  · cases hunlink
  · obtain rfl := Except.ok.inj hunlink
    exact h.put hfree none

theorem Grown.replace {source destination : Path} {files : Files} (h : Grown host s t)
    (hsource : s.files.node host source = none)
    (hdestination : s.files.node host destination ≠ none →
      s.files.node host destination = some .directory)
    (hreplace : t.files.replace host source destination = .ok files) :
    Grown host s { t with files } := by
  have hfree : t.files.node host destination ≠ some .directory →
      s.files.node host destination = none := by
    intro hnot
    by_contra hsome
    apply hnot
    rw [h.kept destination hsome]
    exact hdestination hsome
  unfold Files.replace at hreplace
  split at hreplace
  · next size size' hfile htarget =>
    obtain rfl := Except.ok.inj hreplace
    apply (h.put hsource none).put (hfree _) (some (.file size))
    rw [htarget]
    exact fun h => by cases h
  · next size hfile htarget =>
    obtain rfl := Except.ok.inj hreplace
    apply (h.put hsource none).put (hfree _) (some (.file size))
    rw [htarget]
    exact fun h => by cases h
  · cases hreplace
  · cases hreplace

end

/-- A call before a conversion: it reads, or it has to do with the lock or with fetching the inputs. -/
def HandlerOp.Prepares : HandlerOp β → Prop
  | .mkdir _ | .unlink _ | .makeTemporary _ | .receiveMedia _ _ | .replace _ _ | .acquireLock _ _
  | .releaseLock _ _ => True
  | op => op.IsQuery

theorem HandlerOp.IsQuery.prepares {op : HandlerOp β} (h : op.IsQuery) : op.Prepares := by
  cases op <;> first | exact h | trivial

section
variable {host : Host} {permits : Library → {β : Type} → HandlerOp β → Prop} {s t : Library}
  (hpermits : ∀ t, Grown host s t → ∀ {γ : Type} (op : HandlerOp γ), op.Prepares → permits t op)
include hpermits

theorem grown_receiveFromApi (download : Download) {destination temporary : Path}
    (h : Grown host s t) (hfree : s.files.node host temporary = none)
    (hdestination : s.files.node host destination ≠ none →
      s.files.node host destination = some .directory) :
    (receiveFromApi download destination temporary).Meets (undisturbed host permits)
      (Ends (Grown host s) fun _ _ => True) t := by
  apply ends_call (hpermits t h (.receiveMedia download temporary) trivial)
  intro reply r _ hrun
  obtain rfl := Option.some.inj hrun
  have h₁ : Grown host s { t with files := t.files.put host temporary (some (.file reply.size)) } :=
    h.put hfree _
  refine ⟨h₁, ?_⟩
  intro bytesWritten _
  apply ends_bind (S := fun _ u => u = { t with
    files := t.files.put host temporary (some (.file reply.size)) })
  · apply meets_ofExcept
    exact ⟨h₁, fun _ _ => rfl⟩
  · rintro expectedSize u - rfl
    apply meets_ite
    · intro _
      exact ends_raise h₁ _
    · intro _
      apply ends_perform (hpermits _ h₁ (.replace temporary destination) trivial)
      intro reply' r _ hrun
      obtain rfl := Option.some.inj hrun
      refine ⟨?_, fun _ _ => trivial⟩
      apply reply'.settle_map _ h₁
      intro files hfiles
      exact h₁.replace hfree hdestination hfiles

theorem grown_downloadFromApi (download : Download) {destination : Path} (h : Grown host s t)
    (hdestination : s.files.node host destination ≠ none →
      s.files.node host destination = some .directory) :
    (downloadFromApi host download destination).Meets (undisturbed host permits)
      (Ends (Grown host s) fun path _ => path = destination) t := by
  apply meets_ite
  · intro _
    exact ends_raise h _
  · intro _
    apply ends_call (hpermits t h (.mkdir destination.parent) trivial)
    intro reply r _ hrun
    obtain rfl := Option.some.inj hrun
    have h₁ : Grown host s (reply.settle ((t.files.mkdir host destination.parent).map fun files =>
        ((), { t with files })) t).2 :=
      reply.settle_map _ h fun files hfiles => h.mkdir hfiles
    refine ⟨h₁, ?_⟩
    intro _ _
    apply ends_call (hpermits _ h₁ (.makeTemporary destination) trivial)
    intro reply r _ hrun
    obtain ⟨⟨hnone, -⟩, hrun⟩ := Option.ite_none_right_eq_some.1 hrun
    obtain rfl := Option.some.inj hrun
    have hfree : s.files.node host reply.path = none :=
      h₁.of_none (Option.isNone_iff_eq_none.1 hnone)
    refine ⟨h₁.put hfree _, ?_⟩
    intro temporary htemporary
    have hpath : temporary = reply.path := by
      dsimp only [Reply.outside] at htemporary
      cases hraised : reply.outcome.error with
      | none =>
        rw [hraised] at htemporary
        exact (Except.ok.inj htemporary).symm
      | some e =>
        rw [hraised] at htemporary
        cases htemporary
    rw [← hpath] at hfree ⊢
    apply ends_bind (S := fun _ _ => True)
    · apply Meets.tryCatch (grown_receiveFromApi hpermits download (h₁.put hfree _) hfree hdestination)
      · exact fun _ _ h => h
      · intro e u hu
        apply ends_call (hpermits u hu.1 (.unlink temporary) trivial)
        intro reply r _ hrun
        obtain rfl := Option.some.inj hrun
        refine ⟨?_, fun _ _ => ?_⟩
        · exact reply.settle_map _ hu.1 fun files hfiles => hu.1.unlink hfree hfiles
        · apply ends_raise
          exact reply.settle_map _ hu.1 fun files hfiles => hu.1.unlink hfree hfiles
    · intro _ u hu _
      exact ends_pure hu rfl

/-- An input that is fetched stands in the cache. -/
theorem grown_fetchSource (download : Download) (path : Path) (h : Grown host s t) :
    (fetchSource host download path).Meets (undisturbed host permits)
      (Ends (Grown host s) fun found _ => found = path ∨ found = cachePath host download) t := by
  apply ends_read (reads_node path) (hpermits t h _ trivial) h
  apply meets_ite
  · intro _
    exact ends_pure h (.inl rfl)
  · intro hmissing
    apply ends_read (reads_node path) (hpermits t h _ trivial) h
    apply meets_ite
    · exact fun hfile => absurd hfile hmissing
    · intro _
      apply ends_read (reads_node (cachePath host download)) (hpermits t h _ trivial) h
      apply meets_ite
      · intro _
        exact ends_pure h (.inr rfl)
      · intro hcached
        have hdestination : s.files.node host (cachePath host download) ≠ none →
            s.files.node host (cachePath host download) = some .directory := by
          intro hsome
          rw [h.kept _ hsome] at hcached
          cases hnode : s.files.node host (cachePath host download) with
          | none => exact absurd hnode hsome
          | some node =>
            cases node with
            | directory => rfl
            | file size =>
              rw [hnode] at hcached
              exact absurd rfl hcached
        apply Meets.mono (grown_downloadFromApi hpermits download h hdestination)
        intro r u hu
        exact ⟨hu.1, fun found hfound => .inr (hu.2 found hfound)⟩

/-- The inputs are those of the conversion, or stand in the cache. -/
theorem grown_fetchSources (download : Download) (sources : ConversionSources) (h : Grown host s t) :
    (fetchSources host download sources).Meets (undisturbed host permits)
      (Ends (Grown host s) fun found _ =>
        ∀ path ∈ found.all, path ∈ sources.all ∨ path = cachePath host download) t := by
  apply ends_bind (grown_fetchSource hpermits download sources.first h)
  intro first u hu hfirst
  apply ends_bind (S := fun rest _ =>
    ∀ path ∈ rest, path ∈ sources.all ∨ path = cachePath host download)
  · apply Meets.foldlM (I := fun rest v => Grown host s v ∧
      ∀ path ∈ rest, path ∈ sources.all ∨ path = cachePath host download)
    · rintro rest path v hpath ⟨hv, hrest⟩
      have hround : (do
            let path ← fetchSource host download path
            return rest ++ [path] : Handler (List Path)).Meets (undisturbed host permits)
          (Ends (Grown host s) fun rest _ =>
            ∀ path ∈ rest, path ∈ sources.all ∨ path = cachePath host download) v := by
        apply ends_bind (grown_fetchSource hpermits download path hv)
        intro found v' hv' hfound
        apply ends_pure hv'
        intro other hother
        rcases List.mem_append.1 hother with hother | hother
        · exact hrest other hother
        · obtain rfl := List.mem_singleton.1 hother
          rcases hfound with rfl | hcached
          · exact .inl (List.mem_cons_of_mem _ hpath)
          · exact .inr hcached
      apply Meets.mono hround
      intro r v' hr
      refine ⟨fun rest' hrest' => ⟨hr.1, hr.2 rest' hrest'⟩, ?_⟩
      intro e he
      exact .error hr.1 e
    · rintro rest v ⟨hv, hrest⟩
      exact .ok hv hrest
    · exact ⟨hu, List.forall_mem_nil _⟩
  · intro rest v hv hrest
    apply ends_pure hv
    intro path hpath
    rcases List.mem_cons.1 hpath with rfl | hpath
    · rcases hfirst with rfl | hcached
      · exact .inl List.mem_cons_self
      · exact .inr hcached
    · exact hrest path hpath

end

end GetOffline
