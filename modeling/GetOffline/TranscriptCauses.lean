import GetOffline.ScreeningFlow
import GetOffline.SubtitleAttempts

set_option autoImplicit true

namespace GetOffline
open Python Effects Program Interruptible Interruptible.Comp

/-- `_subtitles_enabled_for_download`, of the source that the row has. -/
def subtitlesEnabled (host : Host) (payload : Columns) (source : Option SourceConfig) : Bool :=
  match Json.get "subtitles" payload with
  | some value => lower (strip (host.str value)) ∉ ["0", "false", "no", "off"]
  | none => source.all SourceConfig.subtitles

/-- The call deletes the media of a row, or writes its status. -/
def HandlerOp.TouchesRow : HandlerOp β → Prop
  | .deleteMediaArtifacts _ (.row _) => True
  | .saveDownload _ fields => (Json.get "download_status" fields).isSome
  | _ => False

/-- A call that does not touch the row so, and asks neither for a transcript nor for a screening. -/
def HandlerOp.IsPlain : HandlerOp β → Prop
  | .createSubtitles _ _ _ _ _ | .screenTranscript _ => False
  | op => ¬ op.TouchesRow

def HandlerOp.IsScreening : HandlerOp β → Prop
  | .screenTranscript _ => True
  | _ => False

/-- A call after the media has been deleted. -/
def HandlerOp.IsLate : HandlerOp β → Prop
  | .createSubtitles _ _ _ _ _ | .screenTranscript _ | .deleteMediaArtifacts _ _ => False
  | _ => True

def LeftAlone (past : List Record) : Prop :=
  ∀ record ∈ past, ¬ record.op.TouchesRow

def SubtitlesAsked (media : Path) (past : List Record) : Prop :=
  ∃ offset enabled contextName mode answer,
    (⟨.createSubtitles media offset enabled contextName mode, answer⟩ : Record) ∈ past

/-- The screening has found something in the transcript of the media. -/
def MatchFound (media : Path) (past : List Record) : Prop :=
  ∃ offset enabled contextName mode subtitle explicitMatch,
    (⟨.createSubtitles media offset enabled contextName mode, .ok (some subtitle)⟩ : Record) ∈ past ∧
    (⟨.screenTranscript subtitle, .ok (some explicitMatch)⟩ : Record) ∈ past

/-- What a transcript job finds: the source of its row, the files when subtitles are asked for, and how that call
goes. An offset is a number of seconds. -/
structure TranscriptScene where
  subtitleHost : SubtitleHost
  seconds : Json → ℚ
  source : Option SourceConfig
  world : SubtitleWorld
  fates : CallFates

namespace TranscriptScene

def createSubtitles (t : TranscriptScene) (media : Path) (offset : Option Json) (enabled : Bool) :
    Except (Halt Error) (Option Path) × SubtitleWorld :=
  SubtitleWorld.createSubtitles t.subtitleHost media (offset.map t.seconds) enabled t.fates t.world

/-- What the calls are answered. -/
def Answers (t : TranscriptScene) : HandlerOp β → Except Error β → Prop
  | .sourceNamed _ _ _, .ok source => source = t.source
  | .createSubtitles media offset enabled _ _, answer =>
    (t.createSubtitles media offset enabled).1 = answer.mapError .raised
  | _, _ => True

def rules (t : TranscriptScene) : Rules where
  permits _ _ _ := True
  answers _ _ op answer := t.Answers op answer
  ends _ := True

/-- The transcription of the media has failed, when subtitles were asked for or before. -/
def TranscriptionFailed (t : TranscriptScene) (media : Path) (past : List Record) : Prop :=
  t.world.KnownFailure media ∨ ∃ offset enabled contextName mode,
    (⟨.createSubtitles media offset enabled contextName mode, .ok none⟩ : Record) ∈ past ∧
    SubtitleWorld.Attempted media t.world (t.createSubtitles media offset enabled).2

/-- The media of a row is deleted only on request and after a transcription that has failed or a screening that has
found something. Without subtitles for the row, or when the screening raises, nothing is done to it. -/
structure DeletesForCause (t : TranscriptScene) (host : Host) (payload : Columns) (past : List Record) : Prop where
  caused : ∀ media id answer, (⟨.deleteMediaArtifacts media (.row id), answer⟩ : Record) ∈ past →
    (t.world.files.lookup media).isSome → isTrue "delete_explicit_content" payload = true ∧
      (t.TranscriptionFailed media past ∨ MatchFound media past)
  disabled : subtitlesEnabled host payload t.source = false → LeftAlone past
  unscreened : ∀ subtitle error, (⟨.screenTranscript subtitle, .error error⟩ : Record) ∈ past → LeftAlone past

/-- A row whose media may be deleted has subtitles enabled when they are asked for, and nothing raises then before the
transcription, or one that has failed before is known. -/
def KnowsCause (t : TranscriptScene) (host : Host) (payload : Columns) (past : List Record) : Prop :=
  (downloadPk payload).truthy = true → isTrue "delete_explicit_content" payload = true →
    ∀ media, SubtitlesAsked media past → subtitlesEnabled host payload t.source = true ∧
      ((t.world.files.lookup media).isSome →
        t.world.KnownFailure media ∨ t.world.Reaches media t.fates)

end TranscriptScene

theorem Extends.mem {P : {β : Type} → HandlerOp β → Prop} {record : Record} (h : Extends P past past')
    (hrecord : record ∈ past') : record ∈ past ∨ P record.op := by
  obtain ⟨calls, rfl, hcalls⟩ := h
  exact (List.mem_append.1 hrecord).imp_right (hcalls record)

theorem Record.ne_of_op {P : {β : Type} → HandlerOp β → Prop} {record record' : Record} (h : P record.op)
    (h' : ¬ P record'.op) : record ≠ record' := by
  rintro rfl
  exact h' h

theorem HandlerOp.IsPlain.not_touchesRow {op : HandlerOp β} (h : op.IsPlain) : ¬ op.TouchesRow := by
  cases op <;> first | exact h | exact False.elim h

theorem HandlerOp.IsScreening.not_touchesRow {op : HandlerOp β} (h : op.IsScreening) : ¬ op.TouchesRow := by
  cases op <;> first | exact id | exact False.elim h

theorem HandlerOp.IsCalm.isPlain {op : HandlerOp β} (h : op.IsCalm jobId job) : op.IsPlain := by
  cases op <;> first | exact id | exact False.elim h

abbrev Plain (p : Handler α) : Prop :=
  p.Calls fun op => op.IsPlain

theorem Quiet.plain {p : Handler α} (h : Quiet p) : Plain p := by
  refine h.mono ?_ fun _ _ => trivial
  intro β op hop
  cases op <;> first | exact id | exact False.elim hop

theorem Asks.plain {p : Handler α} (h : Asks p) : Plain p :=
  h.quiet.plain

theorem Calm.plain {p : Handler α} (h : Calm jobId job p) : Plain p :=
  h.mono (fun _ hop => hop.isPlain) fun _ _ => trivial

-- A video without a row

section
variable {host : Host} {jobId : Nat} {job : Job} {lookup defaults payload : Columns}

end

namespace TranscriptScene

section
variable {t : TranscriptScene} {host : Host} {jobId : Nat} {job : Job} {payload : Columns} {media : Path}
  {past : List Record}

/-- What subtitles are asked for, the call ends with an answer; and it says why there are none. -/
theorem created {offset : Option Json} {enabled : Bool} {contextName mode : String}
    {answer : Except Error (Option Path)} (h : t.Answers (.createSubtitles media offset enabled contextName mode) answer) :
    ∃ made, answer = .ok made ∧
      (made.isSome → enabled = true ∧ t.world.Reaches media t.fates) ∧
      (made = none → enabled = true → (t.world.files.lookup media).isSome →
        (t.world.KnownFailure media ∨ t.world.Reaches media t.fates ↔
          t.world.KnownFailure media ∨
            SubtitleWorld.Attempted media t.world (t.createSubtitles media offset enabled).2)) := by
  have hensures := @SubtitleWorld.ensures_createSubtitles_attempt t.subtitleHost media t.fates t.world
    (offset.map t.seconds) enabled
  have hrun : SubtitleWorld.createSubtitles t.subtitleHost media (offset.map t.seconds) enabled t.fates t.world =
      (answer.mapError .raised, (t.createSubtitles media offset enabled).2) := Prod.ext h rfl
  cases answer with
  | error e => exact absurd (hensures.of_error hrun) (by rintro ⟨⟩)
  | ok made =>
    obtain ⟨hsome, hnone⟩ := hensures.of_ok hrun
    refine ⟨made, rfl, ?_, hnone⟩
    intro hmade
    obtain ⟨path, hpath⟩ := Option.isSome_iff_exists.1 hmade
    exact hsome path hpath

theorem deletesForCause_of_leftAlone (h : LeftAlone past) : t.DeletesForCause host payload past where
  caused _ _ _ hdelete := absurd trivial (h _ hdelete)
  disabled _ := h
  unscreened _ _ _ := h

/-- What is to be shown of every run. -/
def Explained (t : TranscriptScene) (host : Host) (payload : Columns) (past : List Record) : Prop :=
  t.DeletesForCause host payload past ↔ t.KnowsCause host payload past

/-- Up to the question for subtitles. -/
structure Unasked (past : List Record) : Prop where
  plain : ∀ record ∈ past, record.op.IsPlain

theorem Unasked.leftAlone (h : Unasked past) : LeftAlone past :=
  fun record hrecord => (h.plain record hrecord).not_touchesRow

theorem Unasked.not_subtitlesAsked (h : Unasked past) : ¬ SubtitlesAsked media past := by
  rintro ⟨_, _, _, _, _, hasked⟩
  exact h.plain _ hasked

theorem Unasked.knowsCause (h : Unasked past) : t.KnowsCause host payload past :=
  fun _ _ _ hasked => absurd hasked h.not_subtitlesAsked

theorem Unasked.explained (h : Unasked past) : t.Explained host payload past :=
  iff_of_true (deletesForCause_of_leftAlone h.leftAlone) h.knowsCause

theorem Unasked.append (h : Unasked past) (hext : Extends (fun op => op.IsPlain) past past') : Unasked past' where
  plain record hrecord := (hext.mem hrecord).elim (h.plain record) id

/-- From the subtitle to its screening. -/
structure Subtitled (t : TranscriptScene) (host : Host) (payload : Columns) (media subtitle : Path)
    (past : List Record) : Prop where
  leftAlone : LeftAlone past
  knowsCause : t.KnowsCause host payload past
  enabled : subtitlesEnabled host payload t.source = true
  made : ∃ offset enabled contextName mode,
    (⟨.createSubtitles media offset enabled contextName mode, .ok (some subtitle)⟩ : Record) ∈ past
  unscreened : ∀ other answer, (⟨.screenTranscript other, answer⟩ : Record) ∉ past

/-- Nobody has asked for subtitles since. -/
theorem KnowsCause.mono (h : t.KnowsCause host payload past)
    (hasked : ∀ media, SubtitlesAsked media past' → SubtitlesAsked media past) : t.KnowsCause host payload past' :=
  fun hpk hflag media hmedia => h hpk hflag media (hasked media hmedia)

theorem subtitlesAsked_of_extends {P : {β : Type} → HandlerOp β → Prop} (hext : Extends P past past')
    (hP : ∀ media offset enabled contextName mode, ¬ P (.createSubtitles media offset enabled contextName mode)) :
    SubtitlesAsked media past' → SubtitlesAsked media past := by
  rintro ⟨offset, enabled, contextName, mode, answer, hrecord⟩
  have hold := (hext.mem hrecord).resolve_right (hP media offset enabled contextName mode)
  exact ⟨offset, enabled, contextName, mode, answer, hold⟩

namespace Subtitled
variable {subtitle : Path}

theorem append (h : t.Subtitled host payload media subtitle past)
    (hext : Extends (fun op => op.IsPlain) past past') : t.Subtitled host payload media subtitle past' where
  leftAlone record hrecord := (hext.mem hrecord).elim (h.leftAlone record) fun hplain => hplain.not_touchesRow
  knowsCause := h.knowsCause.mono fun _ => subtitlesAsked_of_extends hext fun _ _ _ _ _ hplain => hplain
  enabled := h.enabled
  made := by
    obtain ⟨offset, enabled, contextName, mode, hmade⟩ := h.made
    exact ⟨offset, enabled, contextName, mode, hext.subset hmade⟩
  unscreened other answer hscreened := (hext.mem hscreened).elim (h.unscreened other answer) id

theorem explained (h : t.Subtitled host payload media subtitle past) : t.Explained host payload past :=
  iff_of_true (deletesForCause_of_leftAlone h.leftAlone) h.knowsCause

theorem screened (h : t.Subtitled host payload media subtitle past)
    (hext : Extends (fun op => op.IsScreening) past past') :
    LeftAlone past' ∧ t.KnowsCause host payload past' := by
  constructor
  · intro record hrecord
    exact (hext.mem hrecord).elim (h.leftAlone record) fun hscreening => hscreening.not_touchesRow
  · exact h.knowsCause.mono fun _ => subtitlesAsked_of_extends hext fun _ _ _ _ _ hscreening => hscreening

/-- The media is deleted after the screening has found something. -/
theorem matched (h : t.Subtitled host payload media subtitle past)
    (hflag : isTrue "delete_explicit_content" payload = true) {explicitMatch : ExplicitContentMatch} {rowId : Nat}
    {answer : Except Error Unit}
    (hlate : Extends (fun op => op.IsLate) (past ++ [⟨.screenTranscript subtitle, .ok (some explicitMatch)⟩] ++
      [⟨.deleteMediaArtifacts media (.row rowId), answer⟩]) past') : t.Explained host payload past' := by
  have hscreening : Extends (fun op => op.IsScreening) past
      (past ++ [⟨.screenTranscript subtitle, .ok (some explicitMatch)⟩]) := Extends.call trivial _ _
  have hknows := (h.screened hscreening).2
  refine iff_of_true ⟨?_, ?_, ?_⟩ ?_
  · intro media' id' answer' hdelete _
    have hmedia : media' = media := by
      have hold := (hlate.mem hdelete).resolve_right id
      rcases List.mem_append.1 hold with hold | hnew
      · exact absurd trivial ((h.screened hscreening).1 _ hold)
      · cases List.mem_singleton.1 hnew
        rfl
    obtain ⟨offset, enabled, contextName, mode, hmade⟩ := h.made
    subst hmedia
    refine ⟨hflag, .inr ⟨offset, enabled, contextName, mode, subtitle, explicitMatch, ?_, ?_⟩⟩
    · exact hlate.subset (List.mem_append_left _ (List.mem_append_left _ hmade))
    · exact hlate.subset (List.mem_append_left _ (List.mem_append_right _ (List.mem_singleton_self _)))
  · intro hdisabled
    rw [h.enabled] at hdisabled
    cases hdisabled
  · intro other error hscreened
    exfalso
    have hold := (hlate.mem hscreened).resolve_right id
    rcases List.mem_append.1 hold with hold | hnew
    · rcases List.mem_append.1 hold with hold | hnew
      · exact h.unscreened other _ hold
      · cases List.mem_singleton.1 hnew
    · exact absurd (List.mem_singleton.1 hnew) (Record.ne_of_op (P := fun op => op.IsScreening) trivial id)
  · refine hknows.mono ?_
    rintro media' ⟨offset, enabled, contextName, mode, answer', hasked⟩
    have hold := (hlate.mem hasked).resolve_right id
    rcases List.mem_append.1 hold with hold | hnew
    · exact ⟨offset, enabled, contextName, mode, answer', hold⟩
    · exact absurd (List.mem_singleton.1 hnew).symm (Record.ne_of_op (P := fun op => op.TouchesRow) trivial id)

end Subtitled

theorem Unasked.subtitled (h : Unasked past) {offset : Option Json} {contextName mode : String} {subtitle : Path}
    (hcreated : t.Answers (.createSubtitles media offset (subtitlesEnabled host payload t.source) contextName mode)
      (.ok (some subtitle))) :
    t.Subtitled host payload media subtitle
      (past ++ [⟨.createSubtitles media offset (subtitlesEnabled host payload t.source) contextName mode,
        .ok (some subtitle)⟩]) := by
  obtain ⟨made, hmade, hsome, -⟩ := created hcreated
  obtain rfl := Except.ok.inj hmade
  obtain ⟨henabled, hreaches⟩ := hsome rfl
  refine ⟨?_, ?_, henabled, ⟨_, _, _, _, List.mem_append_right _ (List.mem_singleton_self _)⟩, ?_⟩
  · intro record hrecord
    rcases List.mem_append.1 hrecord with hold | hnew
    · exact h.leftAlone record hold
    · obtain rfl := List.mem_singleton.1 hnew
      exact id
  · rintro _ _ media' ⟨offset', enabled', contextName', mode', answer', hasked⟩
    refine ⟨henabled, ?_⟩
    rcases List.mem_append.1 hasked with hold | hnew
    · exact absurd hold fun hold => h.plain _ hold
    · cases List.mem_singleton.1 hnew
      exact fun _ => .inr hreaches
  · intro other answer hscreened
    rcases List.mem_append.1 hscreened with hold | hnew
    · exact h.plain _ hold
    · exact absurd (List.mem_singleton.1 hnew) (Record.ne_of_op (P := fun op => op.IsScreening) trivial id)

/-- The media is deleted without a subtitle. -/
theorem Unasked.dropped (h : Unasked past) (hpk : (downloadPk payload).truthy = true)
    (hflag : isTrue "delete_explicit_content" payload = true) {offset : Option Json} {contextName mode : String}
    {rowId : Nat} {answer : Except Error Unit}
    (hcreated : t.Answers (.createSubtitles media offset (subtitlesEnabled host payload t.source) contextName mode)
      (.ok none))
    (hlate : Extends (fun op => op.IsLate)
      (past ++ [⟨.createSubtitles media offset (subtitlesEnabled host payload t.source) contextName mode, .ok none⟩] ++
        [⟨.deleteMediaArtifacts media (.row rowId), answer⟩]) past') : t.Explained host payload past' := by
  have hcreate : (⟨.createSubtitles media offset (subtitlesEnabled host payload t.source) contextName mode,
      .ok none⟩ : Record) ∈ past' :=
    hlate.subset (List.mem_append_left _ (List.mem_append_right _ (List.mem_singleton_self _)))
  have hdelete : (⟨.deleteMediaArtifacts media (.row rowId), answer⟩ : Record) ∈ past' :=
    hlate.subset (List.mem_append_right _ (List.mem_singleton_self _))
  have hmem {record : Record} (hrecord : record ∈ past') (hnot : ¬ record.op.IsLate) : record ∈ past ∨
      record = ⟨.createSubtitles media offset (subtitlesEnabled host payload t.source) contextName mode, .ok none⟩ ∨
      record = ⟨.deleteMediaArtifacts media (.row rowId), answer⟩ := by
    have hold := (hlate.mem hrecord).resolve_right hnot
    simpa only [List.mem_append, List.mem_singleton, or_assoc] using hold
  obtain ⟨made, hmade, -, hcause⟩ := created hcreated
  obtain rfl := Except.ok.inj hmade
  have hcause := hcause rfl
  constructor
  · intro hfor _ _ media' hasked
    have hmedia : media' = media := by
      obtain ⟨offset', enabled', contextName', mode', answer', hasked⟩ := hasked
      rcases hmem hasked id with hold | hnew | hnew
      · exact absurd hold fun hold => h.plain _ hold
      · cases hnew
        rfl
      · exact absurd hnew.symm (Record.ne_of_op (P := fun op => op.TouchesRow) trivial id)
    subst hmedia
    have henabled : subtitlesEnabled host payload t.source = true := by
      by_contra hdisabled
      exact hfor.disabled (Bool.eq_false_of_not_eq_true hdisabled) _ hdelete trivial
    refine ⟨henabled, ?_⟩
    intro hpresent
    apply (hcause henabled hpresent).2
    rcases (hfor.caused media' rowId answer hdelete hpresent).2 with hfailed | hmatch
    · refine hfailed.imp_right ?_
      rintro ⟨offset', enabled', contextName', mode', hasked, hattempted⟩
      rcases hmem hasked id with hold | hnew | hnew
      · exact absurd hold fun hold => h.plain _ hold
      · cases hnew
        exact hattempted
      · exact absurd hnew.symm (Record.ne_of_op (P := fun op => op.TouchesRow) trivial id)
    · obtain ⟨_, _, _, _, subtitle, explicitMatch, -, hscreened⟩ := hmatch
      rcases hmem hscreened id with hold | hnew | hnew
      · exact absurd hold fun hold => h.plain _ hold
      · exact absurd hnew (Record.ne_of_op (P := fun op => op.IsScreening) trivial id)
      · exact absurd hnew (Record.ne_of_op (P := fun op => op.IsScreening) trivial id)
  · intro hknows
    obtain ⟨henabled, hreaches⟩ := hknows hpk hflag media ⟨_, _, _, _, _, hcreate⟩
    refine ⟨?_, ?_, ?_⟩
    · intro media' id' answer' hdeleted hpresent
      have hmedia : media' = media := by
        rcases hmem hdeleted id with hold | hnew | hnew
        · exact absurd trivial (h.leftAlone _ hold)
        · exact absurd hnew (Record.ne_of_op (P := fun op => op.TouchesRow) trivial id)
        · cases hnew
          rfl
      subst hmedia
      refine ⟨hflag, .inl ?_⟩
      refine ((hcause henabled hpresent).1 (hreaches hpresent)).imp_right ?_
      exact fun hattempted => ⟨_, _, _, _, hcreate, hattempted⟩
    · intro hdisabled
      rw [henabled] at hdisabled
      cases hdisabled
    · intro subtitle error hscreened
      rcases hmem hscreened id with hold | hnew | hnew
      · exact absurd hold fun hold => h.plain _ hold
      · exact absurd hnew (Record.ne_of_op (P := fun op => op.IsScreening) trivial id)
      · exact absurd hnew (Record.ne_of_op (P := fun op => op.IsScreening) trivial id)

-- The program

theorem permits_all {P : {β : Type} → HandlerOp β → Prop} (past : List Record) {β : Type} (op : HandlerOp β)
    (_ : P op) : t.rules.permits past op := trivial

theorem late_markFiltered (rowId : Nat) : (markFiltered rowId).Calls fun op => op.IsLate := by
  apply Calls.bind (calls_perform trivial)
  exact fun _ => calls_perform trivial

theorem plain_saveSubtitle (rowId : Nat) (subtitlePath outputRoot : Path) :
    Plain (perform (.saveDownload rowId (subtitleColumns subtitlePath outputRoot))) :=
  calls_perform Bool.false_ne_true

/-- What the program does after a deletion. -/
theorem late_meets {p : Handler Unit} (hp : p.Calls fun op => op.IsLate)
    (h : ∀ past', Extends (fun op => op.IsLate) past past' → t.Explained host payload past') :
    p.Meets t.rules.contract (fun _ past' => t.Explained host payload past') past :=
  (Yields.extends hp permits_all past).mono fun _ past' hlate => h past' hlate.1

/-- What the program does with a subtitle. -/
theorem saveTranscript_meets (download : Download) {subtitlePath : Path} (profileId : String)
    (h : t.Subtitled host payload media subtitlePath past) :
    (saveTranscript host profileId payload download media subtitlePath).Meets t.rules.contract
      (fun _ past' => t.Explained host payload past') past := by
  have hsubtitled : ∀ (e : Error) past', Extends (fun op => op.IsPlain) past past' → t.Explained host payload past' :=
    fun _ _ hext => (h.append hext).explained
  apply Yields.bind_meets (Extends.refl past) (asks_downloadOutputRoot host profileId).plain permits_all hsubtitled
  intro outputRoot past₁ _ h₁
  apply Yields.bind_meets h₁ (plain_saveSubtitle _ _ _) permits_all hsubtitled
  intro _ past₂ _ h₂
  have hsegments : Plain (perform (.subtitleSegments subtitlePath)) := calls_perform id
  apply Yields.bind_meets h₂ hsegments permits_all hsubtitled
  intro segments past₃ _ h₃
  have hdelete : Plain (perform (.deleteSegments download.id)) := calls_perform id
  apply Yields.bind_meets h₃ hdelete permits_all hsubtitled
  intro _ past₄ _ h₄
  have hcreate : Plain (perform (.createSegments download.id subtitlePath.str segments)) := calls_perform id
  apply Yields.bind_meets h₄ hcreate permits_all hsubtitled
  intro _ past₅ _ h₅
  have hnow := h.append h₅
  apply meets_ite
  · intro hflag
    have hscreen : (Program.tryCatch (perform (.screenTranscript subtitlePath)) fun _ => return none :
        Handler (Option ExplicitContentMatch)).Meets t.rules.contract (fun r past' => ∃ found, r = .ok found ∧
          (∀ explicitMatch, found = some explicitMatch →
            past' = past₅ ++ [⟨.screenTranscript subtitlePath, .ok (some explicitMatch)⟩]) ∧
          t.Explained host payload past') past₅ := by
      have hexplained (answer : Except Error (Option ExplicitContentMatch)) :
          t.Explained host payload (past₅ ++ [⟨.screenTranscript subtitlePath, answer⟩]) := by
        have hext : Extends (fun op => op.IsScreening) past₅
            (past₅ ++ [⟨.screenTranscript subtitlePath, answer⟩]) := Extends.call trivial past₅ answer
        have hscreened := hnow.screened hext
        exact iff_of_true (deletesForCause_of_leftAlone hscreened.1) hscreened.2
      have hcall : (perform (.screenTranscript subtitlePath) : Handler (Option ExplicitContentMatch)).Meets
          t.rules.contract (fun r past' => past' = past₅ ++ [⟨.screenTranscript subtitlePath, r⟩]) past₅ :=
        meets_perform trivial fun _ _ hnext => hnext.2
      apply Meets.tryCatch hcall
      · rintro found past' rfl
        refine ⟨found, rfl, ?_, hexplained _⟩
        rintro explicitMatch rfl
        rfl
      · rintro e past' rfl
        exact meets_pure.2 ⟨none, rfl, by rintro explicitMatch ⟨⟩, hexplained _⟩
    apply Meets.bind hscreen
    · rintro found past₆ ⟨found', hfound, hmatch, hexplained⟩
      obtain rfl := Except.ok.inj hfound
      cases found with
      | none => exact meets_pure.2 hexplained
      | some explicitMatch =>
        obtain rfl := hmatch explicitMatch rfl
        have hcause (answer : Except Error Unit) (past' : List Record) (hlate : Extends (fun op => op.IsLate)
            (past₅ ++ [⟨.screenTranscript subtitlePath, .ok (some explicitMatch)⟩] ++
              [⟨.deleteMediaArtifacts media (.row download.id), answer⟩]) past') : t.Explained host payload past' :=
          hnow.matched hflag hlate
        apply perform_bind_meets trivial
        · intro _ _
          apply late_meets
          · exact Calls.bind (calls_perform trivial) fun _ => late_markFiltered _
          · exact hcause _
        · exact fun _ _ => hcause _ _ (Extends.refl _)
    · rintro e past₆ ⟨found, hfound, -⟩
      cases hfound
  · exact fun _ => meets_pure.2 hnow.explained

theorem dropUnscreened_meets (download : Download) {offset : Option Json} {contextName mode : String}
    (h : Unasked past) (hpk : (downloadPk payload).truthy = true)
    (hcreated : t.Answers (.createSubtitles media offset (subtitlesEnabled host payload t.source) contextName mode)
      (.ok none)) :
    (dropUnscreened payload download media).Meets t.rules.contract (fun _ past' => t.Explained host payload past')
      (past ++ [⟨.createSubtitles media offset (subtitlesEnabled host payload t.source) contextName mode,
        .ok none⟩]) := by
  apply meets_ite
  · intro hflag
    have hcause (answer : Except Error Unit) (past' : List Record) (hlate : Extends (fun op => op.IsLate)
        (past ++ [⟨.createSubtitles media offset (subtitlesEnabled host payload t.source) contextName mode,
          .ok none⟩] ++ [⟨.deleteMediaArtifacts media (.row download.id), answer⟩]) past') :
        t.Explained host payload past' :=
      h.dropped hpk hflag hcreated hlate
    apply perform_bind_meets trivial
    · intro _ _
      exact late_meets (late_markFiltered _) (hcause _)
    · exact fun _ _ => hcause _ _ (Extends.refl _)
  · intro hflag
    apply meets_pure.2
    have hleft : LeftAlone (past ++ [⟨.createSubtitles media offset (subtitlesEnabled host payload t.source)
        contextName mode, .ok none⟩]) := by
      intro record hrecord
      rcases List.mem_append.1 hrecord with hold | hnew
      · exact h.leftAlone record hold
      · obtain rfl := List.mem_singleton.1 hnew
        exact id
    exact iff_of_true (deletesForCause_of_leftAlone hleft) fun _ hflagged => absurd hflagged hflag

/-- The source that the program asks for is that of the scene. -/
theorem subtitlesEnabledForDownload_meets (download : Download) (past : List Record) :
    (subtitlesEnabledForDownload host download payload).Meets t.rules.contract (fun r past' =>
      Extends (fun op => op.IsPlain) past past' ∧ ∀ enabled, r = .ok enabled →
        enabled = subtitlesEnabled host payload t.source) past := by
  unfold subtitlesEnabledForDownload subtitlesEnabled
  cases Json.get "subtitles" payload with
  | some value =>
    apply meets_pure.2
    refine ⟨Extends.refl past, ?_⟩
    intro enabled henabled
    exact (Except.ok.inj henabled).symm
  | none =>
    have hsource (answer : Except Error (Option SourceConfig)) : Extends (fun op => op.IsPlain) past
        (past ++ [⟨.sourceNamed (host.str (download.get "profile_id")) (host.str (download.get "source_type"))
          (host.str (download.get "source_name")), answer⟩]) := Extends.call id past answer
    apply perform_bind_meets trivial
    · rintro source rfl
      apply meets_pure.2
      refine ⟨hsource _, ?_⟩
      intro enabled henabled
      exact (Except.ok.inj henabled).symm
    · exact fun e _ => ⟨hsource _, by rintro enabled ⟨⟩⟩

theorem generateDownloadTranscript_meets (download : Download) (hpk : (downloadPk payload).truthy = true)
    (h : Unasked past) :
    (generateDownloadTranscript host jobId job payload download).Meets t.rules.contract
      (fun _ past' => t.Explained host payload past') past := by
  have herror : ∀ (e : Error) past', Extends (fun op => op.IsPlain) past past' → t.Explained host payload past' :=
    fun _ _ hext => (h.append hext).explained
  apply Yields.bind_meets (Extends.refl past) (calm_touchActive jobId job _ _).plain permits_all herror
  intro _ past₁ _ h₁
  have hnode (path : Path) : Plain (perform (.node path)) := calls_perform id
  apply Yields.bind_meets h₁ (hnode _) permits_all herror
  intro node past₂ _ h₂
  have hmedia (path : Path) : Plain (if Node.isFile node then pure path else ensureLocalMedia host download path) :=
    yields_ite (fun _ => calls_pure _) fun _ => (quiet_ensureLocalMedia _ _ _).plain
  apply Yields.bind_meets h₂ (hmedia _) permits_all herror
  intro media past₃ _ h₃
  apply Yields.bind_meets h₃ (hnode _) permits_all herror
  intro found past₄ _ h₄
  apply meets_ite
  · intro _
    apply Meets.bind (subtitlesEnabledForDownload_meets download past₄)
    · rintro enabled past₅ ⟨h₅, henabled⟩
      obtain rfl := henabled enabled rfl
      apply Yields.bind_meets (h₄.trans h₅) (asks_subtitleOffsetForDownload host download payload).plain permits_all
        herror
      intro offset past₆ _ h₆
      apply Yields.bind_meets h₆ (asks_profileSetting job.profileId _ _).plain permits_all herror
      intro mode past₇ _ h₇
      have hunasked := h.append h₇
      apply perform_bind_meets trivial
      · intro made hcreated
        cases made with
        | none => exact dropUnscreened_meets download hunasked hpk hcreated
        | some subtitlePath =>
          apply saveTranscript_meets
          exact hunasked.subtitled hcreated
      · intro e hcreated
        have hraised : t.Answers (.createSubtitles media offset (subtitlesEnabled host payload t.source)
          (host.textOr (some (download.get "title")) media.name) mode) (.error e) := hcreated
        obtain ⟨made, hmade, -⟩ := created hraised
        cases hmade
    · rintro e past₅ ⟨h₅, -⟩
      exact herror e past₅ (h₄.trans h₅)
  · exact fun _ => meets_pure.2 (h.append h₄).explained

end

end TranscriptScene
end GetOffline
