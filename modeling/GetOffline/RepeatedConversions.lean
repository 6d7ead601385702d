import GetOffline.EpisodeRows
import GetOffline.IdleConversions

set_option autoImplicit true

namespace GetOffline
open Python Effects Program

/-- A row that the payload names together with a target has been converted into it. -/
def AlreadyConverted (host : Host) (profileId : String) (payload : Columns) (t : Library) : Prop :=
  hasTarget payload = true → ∀ download, (ConversionSubject.row download).FoundIn profileId payload t →
    Skips host payload t download

/-- The payload's object of columns is a dictionary. -/
def KeysDistinct (key : String) (payload : Columns) : Prop :=
  ∀ columns, payloadObject key payload = some columns → (columns.map Prod.fst).Nodup

theorem Downloads.lookup_updateOrCreate_ne {lookup defaults : Columns} {t t' : Downloads} {id i : Nat}
    (h : t.updateOrCreate lookup defaults = .ok (id, t')) (hne : i ≠ id) :
    t'.rows.lookup i = t.rows.lookup i := by
  rcases Downloads.updateOrCreate_spec h with ⟨rfl, rfl⟩ | ⟨row, -, -, rfl⟩
  · rw [Downloads.lookup_create, if_neg hne]
  · rw [Downloads.lookup_save, if_neg hne]

section
variable {host : Host} {profileId mediaKind targetExt : String} {payload : Columns} {s t u : Library}
  {download : Download} {sources : List Path} {target : Path} {size : Nat} {downloads : Downloads}

theorem OnlyDeletes.stands
    (h : OnlyDeletes host sources target { t.withFile host target size with downloads } u) :
    u.files.node host target ≠ none := by
  rcases h.files target with hkept | ⟨-, -, -, hne⟩
  · rw [hkept, Library.withFile, Files.node_put, if_pos rfl]
    exact Option.some_ne_none _
  · exact absurd rfl hne

theorem OnlyDeletes.rows
    (h : OnlyDeletes host sources target { t.withFile host target size with downloads } u) :
    u.downloads = downloads := by
  obtain ⟨files, rfl⟩ := h.rest
  rfl

theorem explicitTarget_row (host : Host) (payload : Columns) (download : Download) :
    host.real (explicitTarget host payload (.row download)) =
      explicitTarget host payload (.row download) :=
  host.real_real _

/-- The row that names the target under which there is something. -/
theorem skips_of_path (htarget : hasTarget payload = true)
    (hpath : download.get "file_path" = .string target.str)
    (hreal : host.real target = explicitTarget host payload (.row download))
    (hstands : t.files.node host target ≠ none) : Skips host payload t download := by
  refine ⟨htarget, ?_, .inl ((Download.media_eq hpath).trans hreal)⟩
  rw [← hreal, Files.node_real]
  exact hstands

/-- The row that a conversion has saved is the one that is found again. -/
theorem alreadyConverted_row {outputRoot : Path} {outputSize : Nat} {completedAt lastSeenAt : Instant}
    {sources : ConversionSources} (h : ConvertsIn host profileId payload s (.row download) sources target t)
    (hsaved : t.downloads.saveFields download.id
      (convertedColumns target outputRoot outputSize completedAt lastSeenAt) = .ok downloads)
    (hdeletes : OnlyDeletes host sources.all target { t.withFile host target size with downloads } u) :
    AlreadyConverted host profileId payload u := by
  intro htarget found hfound
  obtain ⟨hkey, -, -⟩ := Downloads.byId_iff.1 h.found.2
  obtain ⟨hkey', hrow, -⟩ := Downloads.byId_iff.1 hfound.2
  have hid : found.id = download.id := Int.ofNat.inj (Except.ok.inj (hkey'.symm.trans hkey))
  rw [hdeletes.rows, hid] at hrow
  unfold Downloads.saveFields at hsaved
  split at hsaved
  · obtain rfl := Except.ok.inj hsaved
    rw [Downloads.lookup_save, if_pos rfl] at hrow
    obtain ⟨row, -, hcolumns⟩ := Option.map_eq_some_iff.1 hrow
    apply skips_of_path htarget
    · rw [Download.get, ← hcolumns, Json.get_update]
      rfl
    · rw [h.explicit htarget]
      exact explicitTarget_row host payload download
    · exact hdeletes.stands
  · cases hsaved

/-- Where no row was found, at most the one that a conversion has inserted is found afterwards. -/
theorem alreadyConverted_deferred {outputRoot : Path} {outputSize id : Nat}
    {completedAt lastSeenAt : Instant} {lookup defaults : Columns} {sources : ConversionSources}
    (h : ConvertsIn host profileId payload s (.deferred lookup defaults) sources target t)
    (hdistinct : (defaults.map Prod.fst).Nodup)
    (hsaved : t.downloads.updateOrCreate lookup (Json.update
      (convertedColumns target outputRoot outputSize completedAt lastSeenAt) defaults) = .ok (id, downloads))
    (hdeletes : OnlyDeletes host sources.all target { t.withFile host target size with downloads } u) :
    AlreadyConverted host profileId payload u := by
  intro htarget found hfound
  obtain ⟨hkey, hrow, hprofile⟩ := Downloads.byId_iff.1 hfound.2
  rw [hdeletes.rows] at hrow
  by_cases hid : found.id = id
  · obtain ⟨old, hcolumns⟩ := updateOrCreate_copy hsaved
    rw [Downloads.copy, ← hid, hrow, Option.getD_some] at hcolumns
    apply skips_of_path htarget
    · rw [Download.get, hcolumns, Json.get_update_of_nodup (Json.nodup_keys_update hdistinct _),
        Json.get_update]
      rfl
    · rw [h.explicit htarget]
      rfl
    · exact hdeletes.stands
  · rw [Downloads.lookup_updateOrCreate_ne hsaved hid, h.grown.downloads] at hrow
    cases (h.found.1 hfound.1).symm.trans (Downloads.byId_iff.2 ⟨hkey, hrow, hprofile⟩)

theorem createAndPublish_keeps (args : JobArgs) : (createAndPublish args).Meets (alone host)
    (Ends (fun _ => True) fun _ u => u.downloads = t.downloads) t := by
  apply ends_call trivial
  intro reply r _ hrun
  obtain rfl := Option.some.inj hrun
  refine ⟨trivial, ?_⟩
  intro id _
  have hcreated (id : Nat) (database : Database) :
      (reply.settle (.ok (id, { t with database })) t).2.downloads = t.downloads :=
    reply.settle_ok (P := fun u => u.downloads = t.downloads) id rfl rfl
  apply ends_perform trivial
  intro reply' r' _ hrun'
  obtain rfl := Option.some.inj hrun'
  refine ⟨trivial, fun _ _ => ?_⟩
  exact reply'.settle_ok (P := fun u => u.downloads = t.downloads) () (hcreated _ _) (hcreated _ _)

theorem convert_deferred_settles {lookup defaults : Columns} {sources : ConversionSources}
    (h : ConvertsIn host profileId payload s (.deferred lookup defaults) sources target t)
    (hdistinct : (defaults.map Prod.fst).Nodup) :
    (convert host profileId payload (.deferred lookup defaults) mediaKind targetExt sources target).Meets
      (alone host) (Ends (fun _ => True) fun _ u => AlreadyConverted host profileId payload u) t := by
  have hpermits (u : Library) (_ : True) {γ : Type} (op : HandlerOp γ) (_ : op.Prepares) : True := trivial
  have hquery {γ : Type} (op : HandlerOp γ) (_ : op.IsQuery) : True := trivial
  have hrun : (runConversion profileId mediaKind targetExt sources target).Meets (alone host)
      (Ends (fun _ => True) fun _ u => ∃ size, u = t.withFile host target size) t :=
    undisturbed_runConversion hpermits (fun _ => trivial) trivial fun _ _ => trivial
  apply ends_bind hrun
  rintro outputSize u - ⟨size, rfl⟩
  apply ends_asks (asks_conversionRoot host profileId payload) hquery trivial
  intro outputRoot
  have hnow : Asks (perform .now) := calls_perform trivial
  apply meets_ite
  · intro _
    apply ends_asks hnow hquery trivial
    intro completedAt
    apply ends_asks hnow hquery trivial
    intro lastSeenAt
    apply ends_bind (createAndPublish_keeps _)
    intro _ u _ hsame
    apply ends_pure trivial
    rintro - found ⟨htruthy, hfound⟩
    have hdownloads : u.downloads = s.downloads := hsame.trans h.grown.downloads
    rw [hdownloads] at hfound
    cases (h.found.1 htruthy).symm.trans hfound
  · intro _
    apply ends_asks hnow hquery trivial
    intro completedAt
    apply ends_asks hnow hquery trivial
    intro lastSeenAt
    apply ends_call trivial
    intro reply r _ hrun
    refine ⟨trivial, ?_⟩
    intro saved hsaved
    rcases HandlerOp.run_updateOrCreate hrun with ⟨-, e, he⟩ | ⟨id, downloads, hdownloads, hr, -⟩
    · cases hsaved.symm.trans he
    · rw [hr]
      have hdeleted : (deleteFfmpegSourceFiles host sources.all target).Meets (alone host)
          (Ends (OnlyDeletes host sources.all target { t.withFile host target size with downloads })
            fun _ _ => True) { t.withFile host target size with downloads } :=
        onlyDeletes_deleteFfmpegSourceFiles fun _ _ {_} _ _ => trivial
      apply Meets.bind hdeleted
      · rintro deleted u ⟨hu, -⟩
        exact ends_pure trivial (alreadyConverted_deferred h hdistinct hdownloads hu)
      · exact fun e _ _ => .error trivial e

/-- After a run that has succeeded, what the payload names together with a target has been converted. -/
theorem alreadyConverted_of_run {parentJobId : String} {found : Option Download}
    (hdistinct : KeysDistinct "download_defaults" payload)
    (hrun : RunsTo host (postprocessDownloadWithFfmpeg host profileId payload parentJobId) s found t) :
    AlreadyConverted host profileId payload t := by
  have hmeets : (postprocessDownloadWithFfmpeg host profileId payload parentJobId).Meets (alone host)
      (Ends (fun _ => True) fun _ t => AlreadyConverted host profileId payload t) s := by
    apply undisturbed_postprocess
    · exact fun _ _ {_} _ _ => trivial
    · exact fun _ _ => trivial
    · intro download hfound hskips _ other hother
      obtain rfl := ConversionSubject.row.inj (hfound.unique hother)
      exact hskips
    · intro subject mediaKind targetExt sources target t hconverts
      cases subject with
      | row download =>
        apply undisturbed_convert_row
        · exact fun _ _ {_} _ _ => trivial
        · exact fun _ => trivial
        · trivial
        · exact fun _ _ => trivial
        · exact fun _ _ _ => trivial
        · intro size outputRoot outputSize completedAt lastSeenAt downloads u hsaved hdeletes
          exact ⟨trivial, alreadyConverted_row hconverts.toConvertsIn hsaved hdeletes⟩
      | deferred lookup defaults =>
        exact convert_deferred_settles hconverts.toConvertsIn (hdistinct defaults hconverts.found.2.2)
    · exact fun _ _ _ _ => trivial
    · exact fun hnone _ download hfound => absurd hfound (hnone download)
  exact (meets_pure.1 (hmeets.steps hrun fun _ _ _ _ hnext => hnext)).2 found rfl

/-- After a run that has succeeded a further run for the same payload changes nothing and converts nothing
exactly when what the payload names then is not to be converted again. -/
theorem repeated_conversion_iff {parentJobId : String} {found : Option Download}
    (hdistinct : KeysDistinct "download_defaults" payload)
    (hrun : RunsTo host (postprocessDownloadWithFfmpeg host profileId payload parentJobId) s found t) :
    (∀ parentJobId', DoesNothing host (postprocessDownloadWithFfmpeg host profileId payload parentJobId') t) ↔
      ∀ subject : ConversionSubject, subject.FoundIn profileId payload t →
        ¬ ConvertsAgain host profileId payload t subject := by
  have hdone := alreadyConverted_of_run hdistinct hrun
  constructor
  · intro h
    exact (doesNothing_postprocess_iff hdone).1 (h parentJobId)
  · intro h parentJobId'
    exact (doesNothing_postprocess_iff hdone).2 h

end

/-- The conversion of the episode into a file that the payload names. -/
def targetPayload : Columns :=
  audioPayload ++ [("target_file_path", .string "/d/N/a.mp3")]

theorem named_target_is_kept : ∃ saved t, RunsTo .plain
      (postprocessDownloadWithFfmpeg .plain "p" targetPayload "7") (formatLibrary "mp3") (some saved) t ∧
    t.files.node .plain (Path.parse "/d/N/a.webm") = none ∧
      ∀ parentJobId', DoesNothing .plain
        (postprocessDownloadWithFfmpeg .plain "p" targetPayload parentJobId') t := by
  have hserve : ((postprocessDownloadWithFfmpeg .plain "p" targetPayload "7").serve (FairReply.answer .plain)
      (List.replicate 21 audioReply) (formatLibrary "mp3")).any (fun r =>
        r.1.toOption.join.isSome && decide (r.2.files.node .plain (Path.parse "/d/N/a.webm") = none)) =
          true := by
    decide +kernel
  obtain ⟨⟨r, t⟩, hserve, hr⟩ := (Option.any_eq_true _ _).1 hserve
  obtain ⟨hsome, hgone⟩ := Bool.and_eq_true_iff.1 hr
  obtain ⟨saved, hsaved⟩ := Option.isSome_iff_exists.1 hsome
  cases r with
  | error e => cases hsaved
  | ok found =>
    obtain rfl : found = some saved := hsaved
    have hrun : RunsTo .plain (postprocessDownloadWithFfmpeg .plain "p" targetPayload "7")
        (formatLibrary "mp3") (some saved) t :=
      steps_of_serve_ok (fun i op _ _ hr => ⟨i.reply, i.fair op, hr⟩) hserve
    have hnone (key : String) (hkey : Json.get key targetPayload = none) :
        payloadObject key targetPayload = none := by
      rw [payloadObject, hkey]
    have hdistinct : KeysDistinct "download_defaults" targetPayload := by
      intro columns hcolumns
      rw [hnone _ (by decide)] at hcolumns
      cases hcolumns
    refine ⟨saved, t, hrun, of_decide_eq_true hgone, (repeated_conversion_iff hdistinct hrun).2 ?_⟩
    intro subject hfound hagain
    cases subject with
    | row download =>
      have htarget : hasTarget targetPayload = true := by decide
      cases htarget.symm.trans hagain.1
    | deferred lookup defaults => cases (hnone _ (by decide)).symm.trans hfound.2.1

/-- Without a target in the payload, the second run converts the output of the first one. -/
theorem output_is_converted_again : ¬ ∀ (host : Host) (profileId parentJobId parentJobId' : String)
    (payload : Columns) (s t : Library) (found : Option Download),
      KeysDistinct "download_defaults" payload →
      RunsTo host (postprocessDownloadWithFfmpeg host profileId payload parentJobId) s found t →
      DoesNothing host (postprocessDownloadWithFfmpeg host profileId payload parentJobId') t := by
  intro h
  have hserve : ((postprocessDownloadWithFfmpeg .plain "p" audioPayload "7").serve (FairReply.answer .plain)
      (List.replicate 22 audioReply) (formatLibrary "mp3")).any (fun r => r.1.toOption.isSome &&
        ((postprocessDownloadWithFfmpeg .plain "p" audioPayload "7").serve (FairReply.answer .plain)
          (List.replicate 22 audioReply) r.2).any fun r' => r'.1.toOption.isSome &&
            decide (r.2.files.node .plain (Path.parse "/d/N/a.converted.mp3") ≠ none ∧
              r'.2.files.node .plain (Path.parse "/d/N/a.converted.mp3") = none)) = true := by
    decide +kernel
  obtain ⟨⟨r, t⟩, hserve, hr⟩ := (Option.any_eq_true _ _).1 hserve
  obtain ⟨hsome, hr⟩ := Bool.and_eq_true_iff.1 hr
  obtain ⟨⟨r', u⟩, hserve', hr'⟩ := (Option.any_eq_true _ _).1 hr
  obtain ⟨hsome', hr'⟩ := Bool.and_eq_true_iff.1 hr'
  obtain ⟨hstood, hgone⟩ := of_decide_eq_true hr'
  cases r with
  | error e => cases hsome
  | ok found =>
    cases r' with
    | error e => cases hsome'
    | ok found' =>
      have hrun : RunsTo .plain (postprocessDownloadWithFfmpeg .plain "p" audioPayload "7")
          (formatLibrary "mp3") found t :=
        steps_of_serve_ok (fun i op _ _ hr => ⟨i.reply, i.fair op, hr⟩) hserve
      have hrun' : RunsTo .plain (postprocessDownloadWithFfmpeg .plain "p" audioPayload "7") t found' u :=
        steps_of_serve_ok (fun i op _ _ hr => ⟨i.reply, i.fair op, hr⟩) hserve'
      have hdistinct : KeysDistinct "download_defaults" audioPayload := by
        intro columns hcolumns
        have hnone : Json.get "download_defaults" audioPayload = none := by decide
        rw [payloadObject, hnone] at hcolumns
        cases hcolumns
      have hnothing := h .plain "p" "7" "7" audioPayload _ t found hdistinct hrun
      have hsame := meets_pure.1 (Meets.steps hnothing hrun' fun _ _ _ _ hnext => hnext)
      rw [hsame.2] at hgone
      exact hstood hgone

end GetOffline
