import GetOffline.SyncCopies

set_option autoImplicit true

namespace GetOffline
open Python

-- crons/sync_media_downloads.py: `copy_media` call by call

/-- What `shutil.copy2` comes to: it may raise after it has written something. -/
inductive Copy2 (γ : Type)
  | done
  | failed (left : γ) (modified : Int)

/-- What the calls of `copy_media` come to. -/
structure CopyCalls (γ : Type) where
  /-- The name of the temporary file, unless `NamedTemporaryFile` raises. -/
  created : Option String
  /-- The file is empty when it is made. -/
  empty : γ
  now : Int
  /-- Whether each of the calls returns. -/
  closed : Bool
  copied : Copy2 γ
  probed : Bool
  replaced : Bool
  chowned : Bool

/-- The sync directory and the variable `temporary_path`. -/
structure CopyState (γ : Type) where
  directory : SyncDirectory γ
  temporaryPath : Option String

section
variable {γ : Type}

/-- A call that raises leaves the state as it is then. -/
abbrev CopyStep (γ : Type) := CopyState γ → Except (CopyState γ) (CopyState γ)

/-- `with tempfile.NamedTemporaryFile(...)`. -/
def createTemporary (calls : CopyCalls γ) : CopyStep γ := fun s =>
  match calls.created with
  | none => .error s
  | some name =>
    let s := {
      directory := AList.insert name (.file calls.empty calls.now none) s.directory
      temporaryPath := some name }
    if calls.closed then .ok s else .error s

/-- `shutil.copy2(source, temporary_path)`. -/
def copy2 (calls : CopyCalls γ) (path : Path) (source : SourceFile γ) (temporary : String) : CopyStep γ :=
  fun s =>
    match calls.copied with
    | .failed left modified =>
      .error { s with directory := AList.insert temporary (.file left modified none) s.directory }
    | .done => .ok { s with
        directory := AList.insert temporary (.file source.content source.modified (some path)) s.directory }

/-- `if not has_media_stream(temporary_path): raise`. -/
def validate (probe : γ → Bool) (calls : CopyCalls γ) (temporary : String) : CopyStep γ := fun s =>
  match s.directory.lookup temporary with
  | some (.file content _ _) => if calls.probed && probe content then .ok s else .error s
  | _ => .error s

/-- `os.replace(temporary_path, destination)`, and `temporary_path = None`. -/
def replaceDestination (calls : CopyCalls γ) (temporary destination : String) : CopyStep γ := fun s =>
  match s.directory.lookup temporary, s.directory.lookup destination with
  | none, _ | _, some .directory => .error s
  | some entry, _ =>
    if calls.replaced then
      .ok {
        directory := AList.insert destination entry (AList.erase temporary s.directory)
        temporaryPath := none }
    else .error s

/-- `os.chown(destination, uid, gid)`. -/
def chownDestination (calls : CopyCalls γ) : CopyStep γ := fun s =>
  if calls.chowned then .ok s else .error s

/-- The body of the `try`. -/
def copyMediaBody (probe : γ → Bool) (calls : CopyCalls γ) (path : Path) (source : SourceFile γ) :
    CopyStep γ := fun s => do
  let s ← createTemporary calls s
  let temporary := s.temporaryPath.getD ""
  let s ← copy2 calls path source temporary s
  let s ← validate probe calls temporary s
  let s ← replaceDestination calls temporary (destination path) s
  chownDestination calls s

/-- The `finally`. -/
def cleanUp (s : CopyState γ) : SyncDirectory γ :=
  match s.temporaryPath with
  | some temporary => AList.erase temporary s.directory
  | none => s.directory

/-- `copy_media` with all that its calls come to, and whether it returns. -/
def copyMediaCalls (probe : γ → Bool) (calls : CopyCalls γ) (path : Path) (source : SourceFile γ)
    (directory : SyncDirectory γ) : SyncDirectory γ × Bool :=
  match copyMediaBody probe calls path source { directory, temporaryPath := none } with
  | .ok s => (cleanUp s, true)
  | .error s => (cleanUp s, false)

/-- The destination is as before, or holds the whole valid source; all else is as before. -/
structure CopiesAtomically (probe : γ → Bool) (path : Path) (source : SourceFile γ)
    (before after : SyncDirectory γ) : Prop where
  others : ∀ name, name ≠ destination path → after.lookup name = before.lookup name
  whole : after.lookup (destination path) = before.lookup (destination path) ∨
    after.lookup (destination path) = some (.file source.content source.modified (some path)) ∧
      probe source.content = true

end

section
variable {γ : Type} {probe : γ → Bool} {calls : CopyCalls γ} {path : Path} {source : SourceFile γ}
  {directory : SyncDirectory γ} {temporary : String}

theorem lookup_insert_entry (name : String) (entry : SyncEntry γ) (directory : SyncDirectory γ)
    (other : String) : (AList.insert name entry directory).lookup other =
      if other = name then some entry else directory.lookup other := by
  have h := congrFun (Table.lookup_insert_eq name entry directory) other
  simp only [Function.update_apply] at h
  exact h

theorem lookup_erase_entry (name : String) (directory : SyncDirectory γ) (other : String) :
    (AList.erase name directory).lookup other = if other = name then none else directory.lookup other := by
  split
  · next h =>
    rw [h]
    exact AList.lookup_erase name directory
  · next h => exact AList.lookup_erase_ne h

/-- A directory without the temporary file is the one before. -/
theorem lookup_without (hfree : directory.lookup temporary = none)
    (hsame : ∀ name, name ≠ temporary → after.lookup name = directory.lookup name) (name : String) :
    (AList.erase temporary after).lookup name = directory.lookup name := by
  rw [lookup_erase_entry]
  split
  · next h => rw [h, hfree]
  · next h => exact hsame name h

/-- The temporary file has been made, and nothing else has changed. -/
structure CopyState.Pending (directory : SyncDirectory γ) (temporary : String) (s : CopyState γ) : Prop where
  path : s.temporaryPath = some temporary
  others : ∀ name, name ≠ temporary → s.directory.lookup name = directory.lookup name

theorem CopyState.Pending.write {s : CopyState γ} (h : s.Pending directory temporary) (entry : SyncEntry γ) :
    CopyState.Pending directory temporary
      { s with directory := AList.insert temporary entry s.directory } := by
  refine ⟨h.path, ?_⟩
  intro name hne
  rw [lookup_insert_entry, if_neg hne, h.others name hne]

/-- The clean-up takes a pending temporary file away. -/
theorem CopyState.Pending.cleanUp {s : CopyState γ} (h : s.Pending directory temporary)
    (hfree : directory.lookup temporary = none) (name : String) :
    (GetOffline.cleanUp s).lookup name = directory.lookup name := by
  rw [GetOffline.cleanUp, h.path]
  exact lookup_without hfree h.others name

/-- The source has been copied into the temporary file. -/
def CopyState.Filled (directory : SyncDirectory γ) (temporary : String) (path : Path) (source : SourceFile γ)
    (s : CopyState γ) : Prop :=
  s.Pending directory temporary ∧
    s.directory.lookup temporary = some (.file source.content source.modified (some path))

theorem createTemporary_spec (calls : CopyCalls γ) (directory : SyncDirectory γ) :
    (createTemporary calls { directory, temporaryPath := none } =
        .error { directory, temporaryPath := none }) ∨
      ∃ temporary s, calls.created = some temporary ∧ s.Pending directory temporary ∧
        (createTemporary calls { directory, temporaryPath := none } = .error s ∨
          createTemporary calls { directory, temporaryPath := none } = .ok s) := by
  rw [createTemporary]
  cases calls.created with
  | none => exact .inl rfl
  | some temporary =>
    have hpending : CopyState.Pending directory temporary { directory, temporaryPath := some temporary } :=
      ⟨rfl, fun _ _ => rfl⟩
    refine .inr ⟨temporary, _, rfl, hpending.write (.file calls.empty calls.now none), ?_⟩
    cases calls.closed with
    | true => exact .inr rfl
    | false => exact .inl rfl

theorem copy2_spec {s : CopyState γ} (calls : CopyCalls γ) (path : Path) (source : SourceFile γ)
    (h : s.Pending directory temporary) :
    (∃ t, copy2 calls path source temporary s = .error t ∧ t.Pending directory temporary) ∨
      ∃ t, copy2 calls path source temporary s = .ok t ∧ t.Filled directory temporary path source := by
  rw [copy2]
  cases calls.copied with
  | failed left modified => exact .inl ⟨_, rfl, h.write _⟩
  | done =>
    refine .inr ⟨_, rfl, h.write _, ?_⟩
    rw [lookup_insert_entry, if_pos rfl]

theorem validate_spec {s : CopyState γ} (probe : γ → Bool) (calls : CopyCalls γ)
    (h : s.Filled directory temporary path source) :
    validate probe calls temporary s = .error s ∨
      validate probe calls temporary s = .ok s ∧ probe source.content = true := by
  rw [validate, h.2]
  dsimp only
  split
  · next hvalid => exact .inr ⟨rfl, (Bool.and_eq_true_iff.1 hvalid).2⟩
  · exact .inl rfl

/-- The destination is replaced by the whole source, or all stays as it is. -/
theorem replaceDestination_spec {s : CopyState γ} (calls : CopyCalls γ)
    (h : s.Filled directory temporary path source) (hfree : directory.lookup temporary = none) :
    replaceDestination calls temporary (destination path) s = .error s ∨
      directory.lookup (destination path) ≠ some .directory ∧
      ∃ t, replaceDestination calls temporary (destination path) s = .ok t ∧ t.temporaryPath = none ∧
        ∀ name, t.directory.lookup name = (copiedTo directory (path, source)).lookup name := by
  by_cases hdirectory : s.directory.lookup (destination path) = some .directory
  · rw [replaceDestination, h.2, hdirectory]
    exact .inl rfl
  · have hbefore : directory.lookup (destination path) ≠ some .directory := by
      intro hentry
      apply hdirectory
      rw [h.1.others, hentry]
      rintro hsame
      rw [hsame, hfree] at hentry
      cases hentry
    rw [replaceDestination, h.2]
    split
    · next hnone => cases hnone
    · next hentry _ => exact absurd hentry hdirectory
    · next entry hentry _ =>
      obtain rfl := Option.some.inj hentry
      split
      · refine .inr ⟨hbefore, _, rfl, rfl, ?_⟩
        intro name
        rw [lookup_insert_entry, lookup_copiedTo]
        split
        · rfl
        · exact lookup_without hfree h.1.others name
      · exact .inl rfl

/-- What `copy_media` comes to, whatever its calls do: nothing has changed and it raises, or the source is
valid and stands whole under the destination. -/
theorem copyMediaCalls_spec (probe : γ → Bool) (calls : CopyCalls γ) (path : Path) (source : SourceFile γ)
    (directory : SyncDirectory γ) (hfree : ∀ name ∈ calls.created, directory.lookup name = none) :
    ((∀ name, (copyMediaCalls probe calls path source directory).1.lookup name = directory.lookup name) ∧
        (copyMediaCalls probe calls path source directory).2 = false) ∨
      probe source.content = true ∧ directory.lookup (destination path) ≠ some .directory ∧
        (∀ name, (copyMediaCalls probe calls path source directory).1.lookup name =
          (copiedTo directory (path, source)).lookup name) ∧
        (copyMediaCalls probe calls path source directory).2 = calls.chowned := by
  rw [copyMediaCalls, copyMediaBody]
  rcases createTemporary_spec calls directory with h | ⟨temporary, s, hcreated, hs, h | h⟩
  · rw [h]
    exact .inl ⟨fun _ => rfl, rfl⟩
  · rw [h]
    exact .inl ⟨hs.cleanUp (hfree temporary hcreated), rfl⟩
  · have hfree := hfree temporary hcreated
    rw [h]
    simp only [bind, Except.bind, hs.path, Option.getD_some]
    rcases copy2_spec calls path source hs with ⟨t, hcopy, ht⟩ | ⟨t, hcopy, ht⟩
    · rw [hcopy]
      exact .inl ⟨ht.cleanUp hfree, rfl⟩
    · rw [hcopy]
      dsimp only
      rcases validate_spec probe calls ht with hprobe | ⟨hprobe, hvalid⟩
      · rw [hprobe]
        exact .inl ⟨ht.1.cleanUp hfree, rfl⟩
      · rw [hprobe]
        dsimp only
        rcases replaceDestination_spec calls ht hfree with hreplace | ⟨hentry, u, hreplace, hnone, hu⟩
        · rw [hreplace]
          exact .inl ⟨ht.1.cleanUp hfree, rfl⟩
        · rw [hreplace]
          have hclean : cleanUp u = u.directory := by
            rw [cleanUp, hnone]
          rw [← hclean] at hu
          dsimp only
          rw [chownDestination]
          cases calls.chowned with
          | true => exact .inr ⟨hvalid, hentry, hu, rfl⟩
          | false => exact .inr ⟨hvalid, hentry, hu, rfl⟩

/-- An outcome after the destination has been replaced. -/
theorem copyMedia_replaced (hvalid : probe source.content = true)
    (hentry : directory.lookup (destination path) ≠ some .directory)
    (h : copying = .done ∧ returned = true ∨ copying = .failed true ∧ returned = false) :
    copyMedia probe (fun _ => copying) path source directory =
      (copiedTo directory (path, source), returned) := by
  rw [copyMedia, hvalid]
  rcases h with ⟨rfl, rfl⟩ | ⟨rfl, rfl⟩
  · cases hlookup : directory.lookup (destination path) with
    | none => rfl
    | some entry =>
      cases entry with
      | file content modified copyOf => rfl
      | directory => exact absurd hlookup hentry
  · cases hlookup : directory.lookup (destination path) with
    | none => rfl
    | some entry =>
      cases entry with
      | file content modified copyOf => rfl
      | directory => exact absurd hlookup hentry

/-- The calls of `copy_media` come to what `copyMedia` says, for one of its outcomes. -/
theorem copyMediaCalls_refines (hfree : ∀ name ∈ calls.created, directory.lookup name = none) :
    ∃ copying : Copying,
      (∀ name, (copyMediaCalls probe calls path source directory).1.lookup name =
        (copyMedia probe (fun _ => copying) path source directory).1.lookup name) ∧
      (copyMediaCalls probe calls path source directory).2 =
        (copyMedia probe (fun _ => copying) path source directory).2 := by
  rcases copyMediaCalls_spec probe calls path source directory hfree with
    ⟨hsame, hraised⟩ | ⟨hvalid, hentry, hcopied, hreturned⟩
  · refine ⟨.failed false, ?_⟩
    have hfailed : copyMedia probe (fun _ => .failed false) path source directory = (directory, false) := by
      rw [copyMedia]
      split
      · rfl
      · rfl
    rw [hfailed]
    exact ⟨hsame, hraised⟩
  · rw [hreturned]
    cases calls.chowned with
    | true =>
      refine ⟨.done, ?_⟩
      rw [copyMedia_replaced hvalid hentry (.inl ⟨rfl, rfl⟩)]
      exact ⟨hcopied, rfl⟩
    | false =>
      refine ⟨.failed true, ?_⟩
      rw [copyMedia_replaced hvalid hentry (.inr ⟨rfl, rfl⟩)]
      exact ⟨hcopied, rfl⟩

end

/-- A copy is atomic, whichever of its calls raises. -/
theorem copies_atomically {γ : Type} (probe : γ → Bool) (calls : CopyCalls γ) (path : Path)
    (source : SourceFile γ) (directory : SyncDirectory γ)
    (hfree : ∀ name ∈ calls.created, directory.lookup name = none) :
    CopiesAtomically probe path source directory (copyMediaCalls probe calls path source directory).1 ∧
      ((copyMediaCalls probe calls path source directory).2 = true →
        (copyMediaCalls probe calls path source directory).1.lookup (destination path) =
          some (.file source.content source.modified (some path))) := by
  rcases copyMediaCalls_spec probe calls path source directory hfree with
    ⟨hsame, hraised⟩ | ⟨hvalid, -, hcopied, -⟩
  · refine ⟨⟨fun name _ => hsame name, .inl (hsame _)⟩, ?_⟩
    rw [hraised]
    exact fun h => absurd h Bool.false_ne_true
  · have hwhole : (copyMediaCalls probe calls path source directory).1.lookup (destination path) =
        some (.file source.content source.modified (some path)) := by
      rw [hcopied, lookup_copiedTo, if_pos rfl]
    refine ⟨⟨?_, .inr ⟨hwhole, hvalid⟩⟩, fun _ => hwhole⟩
    intro name hne
    rw [hcopied, lookup_copiedTo, if_neg hne]

/-- A copy whose owner cannot be set has replaced the destination, and nothing else is left. -/
theorem failed_chown_copies : CopiesAtomically (fun _ => true) (Path.parse "/downloads/Anna/a.mp3")
    ⟨[104], 0⟩ (AList.insert "Anna - a.mp3" (.file [1] 0 none) ∅)
    (copyMediaCalls (fun _ => true) {
        created := some ".sync-media.x1", empty := [], now := 0, closed := true, copied := .done
        probed := true, replaced := true, chowned := false }
      (Path.parse "/downloads/Anna/a.mp3") ⟨[104], 0⟩
      (AList.insert "Anna - a.mp3" (.file [1] 0 none) ∅)).1 := by
  apply (copies_atomically (γ := List Nat) _ _ _ _ _ _).1
  intro name hname
  obtain rfl := Option.some.inj hname
  decide +kernel

end GetOffline
