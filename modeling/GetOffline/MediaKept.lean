import GetOffline.ConversionRuns

set_option autoImplicit true

namespace GetOffline
open Python Effects Program

/-- The path that a row names. -/
def Download.media (host : Host) (download : Download) : Path :=
  host.resolve (host.textOr (some (download.get "file_path")) "")

/-- The row is there, and so is the file that it names. -/
def Library.HasMedia (host : Host) (id : Nat) (s : Library) : Prop :=
  ∃ download : Download, download.id = id ∧ s.downloads.rows.lookup id = some download.columns ∧
    Node.isFile (s.files.node host (download.media host)) = true

/-- Conversions of the row, one after the other, each of which is left at some point of its run. -/
inductive Attempts (host : Host) (id : Nat) : Library → Library → Prop
  | none (s : Library) : Attempts host id s s
  | attempt {s t u : Library} {profileId parentJobId : String} {payload : Columns} {download : Download}
      {left : Handler (Option Download)}
      (hfound : (ConversionSubject.row download).FoundIn profileId payload s) (hid : download.id = id)
      (hsteps : Steps (alone host) (postprocessDownloadWithFfmpeg host profileId payload parentJobId) s
        left t)
      (hrest : Attempts host id t u) : Attempts host id s u

theorem Download.media_eq {host : Host} {download : Download} {path : Path}
    (h : download.get "file_path" = .string path.str) : download.media host = host.real path := by
  rw [Download.media, h, Host.textOr_text, Host.resolve_str]

section
variable {host : Host} {id : Nat} {s t : Library} {download : Download}

theorem HasMedia.of_unchanged (hid : download.id = id)
    (hrow : s.downloads.rows.lookup download.id = some download.columns)
    (hfile : Node.isFile (t.files.node host (download.media host)) = true)
    (hsame : t.downloads = s.downloads) : t.HasMedia host id := by
  refine ⟨download, hid, ?_, hfile⟩
  rw [hsame, ← hid]
  exact hrow

/-- The row that names the target has its file while the cleanup spares the target. -/
theorem HasMedia.of_saved {host : Host} {id size : Nat} {target outputRoot : Path} {outputSize : Nat}
    {completedAt lastSeenAt : Instant} {downloads : Downloads} {sources : List Path} {t u : Library}
    (hsaved : t.downloads.saveFields id
      (convertedColumns target outputRoot outputSize completedAt lastSeenAt) = .ok downloads)
    (h : OnlyDeletes host sources target { t.withFile host target size with downloads } u) :
    u.HasMedia host id := by
  unfold Downloads.saveFields at hsaved
  split at hsaved
  · next hsome =>
    obtain rfl := Except.ok.inj hsaved
    obtain ⟨row, hrow⟩ := Option.isSome_iff_exists.1 hsome
    obtain ⟨files, hu⟩ := h.rest
    refine ⟨⟨id, Json.update (convertedColumns target outputRoot outputSize completedAt lastSeenAt) row⟩,
      rfl, ?_, ?_⟩
    · rw [hu]
      exact (Downloads.lookup_save _ _ _ _).trans (by rw [if_pos rfl, hrow]; rfl)
    · have hmedia : Download.media host ⟨id, Json.update (convertedColumns target outputRoot outputSize
          completedAt lastSeenAt) row⟩ = host.real target := by
        apply Download.media_eq
        rw [Download.get, Json.get_update]
        rfl
      rw [hmedia, Files.node_real]
      rcases h.files target with hkept | ⟨-, -, -, hne⟩
      · rw [hkept, Library.withFile, Files.node_put, if_pos rfl]
        rfl
      · exact absurd rfl hne
  · cases hsaved

theorem ConversionSubject.FoundIn.unique {profileId : String} {payload : Columns}
    {subject : ConversionSubject} (h : (ConversionSubject.row download).FoundIn profileId payload s)
    (h' : subject.FoundIn profileId payload s) : subject = .row download := by
  cases subject with
  | row other => rw [Option.some.inj (Except.ok.inj (h.2.symm.trans h'.2))]
  | deferred lookup defaults => cases h.2.symm.trans (h'.1 h.1)

/-- While the row has its file it is not converted into that very file. -/
theorem convert_keeps {profileId mediaKind targetExt : String} {payload : Columns}
    {sources : ConversionSources} {target : Path}
    (hfound : (ConversionSubject.row download).FoundIn profileId payload s)
    (hfile : Node.isFile (s.files.node host (download.media host)) = true)
    (h : ConvertsIn host profileId payload s (.row download) sources target t) :
    (convert host profileId payload (.row download) mediaKind targetExt sources target).Meets
      (undisturbed host fun s {_} _ => s.HasMedia host download.id)
      (Ends (Library.HasMedia host download.id) fun _ _ => True) t := by
  have hrow := (Downloads.byId_spec hfound.2).2
  have hother : download.media host ≠ host.real target := by
    intro hsame
    have hnone := h.current download rfl hsame
    rw [← Files.node_real, ← hsame] at hnone
    rw [hnone] at hfile
    cases hfile
  have hkept : t.files.node host (download.media host) = s.files.node host (download.media host) := by
    apply h.grown.kept
    intro hnone
    rw [hnone] at hfile
    cases hfile
  have hmedia (files : Files)
      (hnode : files.node host (download.media host) = s.files.node host (download.media host)) :
      Library.HasMedia host download.id { t with files } := by
    apply HasMedia.of_unchanged rfl hrow
    · rw [hnode]
      exact hfile
    · exact h.grown.downloads
  apply undisturbed_convert_row
  · exact fun u hu {_} _ _ => hu
  · exact fun _ => hmedia t.files hkept
  · exact hmedia t.files hkept
  · intro node _
    apply hmedia
    rw [Files.node_put, if_neg]
    · exact hkept
    · rw [Download.media, Host.resolve, host.real_real]
      exact hother
  · exact fun u _ hu => hu
  · intro size outputRoot outputSize completedAt lastSeenAt downloads u hsaved hdeletes
    exact ⟨HasMedia.of_saved hsaved hdeletes, trivial⟩

/-- At each point of a conversion of the row it has its file. -/
theorem attempt_keeps {profileId parentJobId : String} {payload : Columns}
    {left : Handler (Option Download)} (hmedia : s.HasMedia host download.id)
    (hfound : (ConversionSubject.row download).FoundIn profileId payload s)
    (hsteps : Steps (alone host) (postprocessDownloadWithFfmpeg host profileId payload parentJobId) s
      left t) : t.HasMedia host download.id := by
  have hrow := (Downloads.byId_spec hfound.2).2
  have hfile : Node.isFile (s.files.node host (download.media host)) = true := by
    obtain ⟨⟨id, columns⟩, rfl, hcolumns, hfile⟩ := hmedia
    rw [hrow] at hcolumns
    obtain rfl := Option.some.inj hcolumns
    exact hfile
  have hgrown (t : Library) (ht : Grown host s t) : t.HasMedia host download.id := by
    apply HasMedia.of_unchanged rfl hrow
    · rw [ht.kept]
      · exact hfile
      · intro hnone
        rw [hnone] at hfile
        cases hfile
    · exact ht.downloads
  have hmeets : (postprocessDownloadWithFfmpeg host profileId payload parentJobId).Meets
      (undisturbed host fun s {_} _ => s.HasMedia host download.id)
      (Ends (Library.HasMedia host download.id) fun _ _ => True) s := by
    apply undisturbed_postprocess
    · exact fun t ht {_} _ _ => hgrown t ht
    · exact hgrown
    · exact fun _ _ _ => trivial
    · intro subject mediaKind targetExt sources target t hconverts
      obtain rfl := hfound.unique hconverts.found
      exact convert_keeps hfound hfile hconverts.toConvertsIn
    · exact fun t _ _ ht => ht
    · exact fun _ => trivial
  have hleft := hmeets.steps hsteps fun _ _ _ _ hnext => hnext
  exact hleft.holds (fun _ _ hok => hok) fun _ _ hr => hr.1

theorem Attempts.keeps {host : Host} {id : Nat} {s t : Library} (h : Attempts host id s t)
    (hmedia : s.HasMedia host id) : t.HasMedia host id := by
  induction h with
  | none s => exact hmedia
  | attempt hfound hid hsteps hrest ih =>
    subst hid
    exact ih (attempt_keeps hmedia hfound hsteps)

theorem cleanup_onlyDeletes {host : Host} {sources : List Path} {target : Path} {s t : Library}
    {left : Handler (List Path)}
    (hsteps : Steps (alone host) (deleteFfmpegSourceFiles host sources target) s left t) :
    OnlyDeletes host sources target s t := by
  have hmeets : (deleteFfmpegSourceFiles host sources target).Meets
      (undisturbed host fun t {_} _ => OnlyDeletes host sources target s t)
      (Ends (OnlyDeletes host sources target s) fun _ _ => True) s :=
    onlyDeletes_deleteFfmpegSourceFiles fun t ht {_} _ _ => ht
  have hleft := hmeets.steps hsteps fun _ _ _ _ hnext => hnext
  exact hleft.holds (fun _ _ hok => hok) fun _ _ hr => hr.1

end

/-- However conversions of a row go on and wherever they are left, the row keeps a file; and the cleanup
after a conversion deletes nothing but files among its sources other than the target. -/
theorem conversions_keep_media (host : Host) :
    (∀ id s t, s.HasMedia host id → Attempts host id s t → t.HasMedia host id) ∧
      ∀ sources target s left t, Steps (alone host) (deleteFfmpegSourceFiles host sources target) s left t →
        OnlyDeletes host sources target s t :=
  ⟨fun _ _ _ hmedia h => h.keeps hmedia, fun _ _ _ _ _ hsteps => cleanup_onlyDeletes hsteps⟩

/-- A reply that every call can be given. -/
structure FairReply where
  reply : Reply
  node : reply.node ≠ some .directory
  subtitle : reply.subtitle = none

def FairReply.answer (host : Host) (i : FairReply) (op : HandlerOp β) (s : Library) :
    Option (Except Error β × Library) :=
  op.run host i.reply s

theorem FairReply.fair (i : FairReply) (op : HandlerOp β) : op.Fair i.reply := by
  cases op with
  | runFfmpeg command inputs output => exact i.node
  | createSubtitles media offset enabled contextName mode =>
    intro subtitle hsubtitle
    rw [i.subtitle] at hsubtitle
    cases hsubtitle
  | _ => trivial

/-- A run from replies of this kind is made of steps. -/
theorem steps_of_fair {host : Host} {p : Handler α} {replies : List FairReply} {s : Library}
    (h : p.serve (FairReply.answer host) replies s = some r) : ∃ q, Steps (alone host) p s q r.2 :=
  steps_of_serve (fun i op _ _ hr => ⟨i.reply, i.fair op, hr⟩) h

/-- An episode with its file. -/
def episodeLibrary : Library :=
  { Library.empty with
    downloads := Library.empty.downloads.create
      [("profile_id", .string "p"), ("file_path", .string "/d/N/a.webm")]
    files := AList.insert (Path.parse "/d/N/a.webm") (.file 3) ∅ }

def audioPayload : Columns :=
  [("download_id", .int 1), ("media_type", .string "audio")]

theorem file_ne_directory (size : Nat) : some (Node.file size) ≠ some .directory := by
  intro h
  cases h

/-- The path beside the source is free, and `ffmpeg` writes a file. -/
def audioReply : FairReply where
  reply := { rounds := 1, node := some (.file 5) }
  node := file_ne_directory 5
  subtitle := rfl

theorem audio_conversion_keeps_media : ∃ t, Attempts .plain 1 episodeLibrary t ∧
    t.HasMedia .plain 1 ∧ t.files.node .plain (Path.parse "/d/N/a.webm") = none := by
  have hrun : ((postprocessDownloadWithFfmpeg .plain "p" audioPayload "7").serve
      (FairReply.answer .plain) (List.replicate 22 audioReply) episodeLibrary).any (fun r =>
        decide (r.2.files.node .plain (Path.parse "/d/N/a.webm") = none)) = true := by
    decide +kernel
  obtain ⟨⟨r, t⟩, hserve, hgone⟩ := (Option.any_eq_true _ _).1 hrun
  obtain ⟨left, hsteps⟩ := steps_of_fair hserve
  have hfound : (ConversionSubject.row ⟨1, [("profile_id", .string "p"),
      ("file_path", .string "/d/N/a.webm")]⟩).FoundIn "p" audioPayload episodeLibrary :=
    ⟨rfl, rfl⟩
  have hattempts : Attempts .plain 1 episodeLibrary t := .attempt hfound rfl hsteps (.none t)
  have hmedia : episodeLibrary.HasMedia .plain 1 :=
    ⟨⟨1, [("profile_id", .string "p"), ("file_path", .string "/d/N/a.webm")]⟩, rfl, rfl,
      by decide +kernel⟩
  exact ⟨t, hattempts, (conversions_keep_media .plain).1 1 _ t hmedia hattempts, of_decide_eq_true hgone⟩

end GetOffline
