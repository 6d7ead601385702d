import GetOffline.Listings
import GetOffline.Windows
import GetOffline.WhisperSubtitles

set_option autoImplicit true

namespace GetOffline
open Python

-- workers/transcription.py

/-- A segment that `model.transcribe` yields. -/
structure ModelSegment where
  start : ℚ
  finish : ℚ
  text : Option String

structure TranscriptionResult where
  text : String
  segments : List WhisperSegment

/-- What `model.transcribe` raises. -/
inductive ModelError
  | indexError (text : String)
  | raised (error : Error)

/-- ffmpeg and the loaded model: the recording that `_extract_audio_chunk` leaves, and the segments
of a recording, whose iteration may raise as well. -/
structure Transcriber (Audio : Type) where
  extract : Audio → ℚ → ℚ → Except Error Audio
  transcribe : Audio → Except ModelError (Except Error (List ModelSegment))

/-- The numbers of the environment, where they are set and can be read. -/
structure ChunkEnv where
  chunkThresholdSeconds : Option ℚ
  chunkSeconds : Option ℚ

def envFloat (raw : Option ℚ) (default : ℚ) : ℚ :=
  raw.getD default

/-- The number that ffprobe prints, if it prints a finite one. -/
def probeAudioDuration (stdout : Option ℚ) : Option ℚ :=
  stdout.filter fun duration => ¬ duration ≤ 0

def offsetSegment (offsetSeconds : ℚ) (segment : WhisperSegment) : WhisperSegment :=
  { segment with
    start := some (segment.start.getD 0 + offsetSeconds)
    finish := some (segment.finish.getD 0 + offsetSeconds) }

def offsetTranscriptionResult (result : TranscriptionResult) (offsetSeconds : ℚ) : TranscriptionResult where
  text := result.text
  segments := result.segments.map (offsetSegment offsetSeconds)

def ModelSegment.normalized (segment : ModelSegment) : WhisperSegment where
  start := some segment.start
  finish := some segment.finish
  text := strip (segment.text.getD "")

def normalizeFasterWhisperResult (segments : List ModelSegment) : TranscriptionResult where
  text := strip (" ".intercalate ((segments.map fun s => s.normalized.text).filter (· ≠ "")))
  segments := segments.map ModelSegment.normalized

variable {Audio : Type}

def transcribeAudioFile (transcriber : Transcriber Audio) (audio : Audio) : Except Error TranscriptionResult :=
  match transcriber.transcribe audio with
  | .error (.indexError text) =>
    if isIn "tuple index out of range" text then .error (.other "RuntimeError") else .error (.other "IndexError")
  | .error (.raised error) => .error error
  | .ok segments => segments.map normalizeFasterWhisperResult

/-- The windows that have been asked of ffmpeg, and what came of it. -/
structure ChunkRun where
  windows : List (ℚ × ℚ)
  outcome : Except Error TranscriptionResult

/-- The loop over the chunks. -/
def transcribeChunks (transcriber : Transcriber Audio) (input : Audio) (durationSeconds chunkSeconds : ℚ) :
    List Nat → List String → List WhisperSegment → ChunkRun
  | [], allTextParts, allSegments => ⟨[], .ok ⟨strip (" ".intercalate allTextParts), allSegments⟩⟩
  | chunkIndex :: rest, allTextParts, allSegments =>
    let start := chunkIndex * chunkSeconds
    let remaining := max (durationSeconds - start) 0
    let currentDuration := min chunkSeconds remaining
    if currentDuration ≤ 0 then ⟨[], .ok ⟨strip (" ".intercalate allTextParts), allSegments⟩⟩
    else
      match transcriber.extract input start currentDuration >>= transcribeAudioFile transcriber with
      | .error error => ⟨[(start, currentDuration)], .error error⟩
      | .ok chunkResult =>
        let offsetResult := offsetTranscriptionResult chunkResult start
        let run := transcribeChunks transcriber input durationSeconds chunkSeconds rest
          (if offsetResult.text = "" then allTextParts else allTextParts ++ [offsetResult.text])
          (allSegments ++ offsetResult.segments)
        { run with windows := (start, currentDuration) :: run.windows }

/-- `_transcribe_in_process`, once the model is there. -/
def transcribeInProcess (transcriber : Transcriber Audio) (env : ChunkEnv) (input : Audio)
    (stdout : Option ℚ) : ChunkRun :=
  let chunkThresholdSeconds := envFloat env.chunkThresholdSeconds (30 * 60)
  let chunkSeconds := envFloat env.chunkSeconds (15 * 60)
  match probeAudioDuration stdout with
  | some durationSeconds =>
    if 0 < chunkSeconds ∧ chunkThresholdSeconds < durationSeconds then
      let chunkCount := ⌈durationSeconds / chunkSeconds⌉
      transcribeChunks transcriber input durationSeconds chunkSeconds (List.range chunkCount.toNat) [] []
    else ⟨[], transcribeAudioFile transcriber input⟩
  | none => ⟨[], transcribeAudioFile transcriber input⟩

-- What is heard

/-- The recording of a window is heard as the segments. -/
def Transcriber.Hears (transcriber : Transcriber Audio) (input : Audio) (window : ℚ × ℚ)
    (segments : List ModelSegment) : Prop :=
  ∃ chunk, transcriber.extract input window.1 window.2 = .ok chunk ∧
    transcriber.transcribe chunk = .ok (.ok segments)

/-- A segment of a window, as it stands in the whole recording. -/
def ModelSegment.placed (window : ℚ × ℚ) (segment : ModelSegment) : WhisperSegment where
  start := some (segment.start + window.1)
  finish := some (segment.finish + window.1)
  text := strip (segment.text.getD "")

/-- The segments of the chunks, one after the other. -/
def placedSegments (windows : List (ℚ × ℚ)) (heard : List (List ModelSegment)) : List WhisperSegment :=
  (windows.zip heard).flatMap fun e => e.2.map (ModelSegment.placed e.1)

variable {transcriber : Transcriber Audio} {input : Audio}

theorem transcribeAudioFile_ok {audio : Audio} (h : transcribeAudioFile transcriber audio = .ok result) :
    ∃ segments, transcriber.transcribe audio = .ok (.ok segments) ∧
      result = normalizeFasterWhisperResult segments := by
  rw [transcribeAudioFile] at h
  split at h
  · split at h <;> cases h
  · cases h
  · rename_i segments hcall
    cases segments with
    | error error => cases h
    | ok segments =>
      cases h
      exact ⟨segments, hcall, rfl⟩

theorem hears_of_ok (window : ℚ × ℚ)
    (h : transcriber.extract input window.1 window.2 >>= transcribeAudioFile transcriber = .ok result) :
    ∃ segments, transcriber.Hears input window segments ∧ result = normalizeFasterWhisperResult segments := by
  obtain ⟨chunk, hextract, htranscribe⟩ := bind_eq_ok.1 h
  obtain ⟨segments, hcall, hresult⟩ := transcribeAudioFile_ok htranscribe
  exact ⟨segments, ⟨chunk, hextract, hcall⟩, hresult⟩

theorem offsetTranscriptionResult_segments (segments : List ModelSegment) (window : ℚ × ℚ) :
    (offsetTranscriptionResult (normalizeFasterWhisperResult segments) window.1).segments =
      segments.map (ModelSegment.placed window) := by
  simp only [offsetTranscriptionResult, normalizeFasterWhisperResult, List.map_map]
  rfl

/-- The loop asks for the windows of its numbers, up to the first that raises, and collects what it hears. -/
theorem transcribeChunks_spec (transcriber : Transcriber Audio) (input : Audio) {durationSeconds chunkSeconds : ℚ}
    (hchunk : 0 < chunkSeconds) {indices : List Nat} (hindices : ∀ index ∈ indices, index * chunkSeconds < durationSeconds)
    (allTextParts : List String) (allSegments : List WhisperSegment) :
    let run := transcribeChunks transcriber input durationSeconds chunkSeconds indices allTextParts allSegments
    let windows := indices.map (Windows.window durationSeconds chunkSeconds)
    run.windows <+: windows ∧ ∀ result, run.outcome = .ok result → run.windows = windows ∧
      ∃ heard, windows.Forall₂ (transcriber.Hears input) heard ∧
        result.segments = allSegments ++ placedSegments windows heard := by
  induction indices generalizing allTextParts allSegments with
  | nil =>
    refine ⟨List.nil_prefix, ?_⟩
    rintro _ ⟨⟩
    exact ⟨rfl, [], .nil, (List.append_nil _).symm⟩
  | cons index rest ih =>
    have hlt := hindices index List.mem_cons_self
    have hrest := fun i h => hindices i (List.mem_cons_of_mem _ h)
    have hremaining : max (durationSeconds - index * chunkSeconds) 0 = durationSeconds - index * chunkSeconds :=
      max_eq_left (sub_pos.2 hlt).le
    -- the early `break` is never taken
    have hpositive : ¬ min chunkSeconds (durationSeconds - index * chunkSeconds) ≤ 0 :=
      not_le.2 (lt_min hchunk (sub_pos.2 hlt))
    simp only [transcribeChunks, hremaining, if_neg hpositive, List.map_cons]
    cases hcall : transcriber.extract input (index * chunkSeconds)
        (min chunkSeconds (durationSeconds - index * chunkSeconds)) >>= transcribeAudioFile transcriber with
    | error error =>
      refine ⟨(List.prefix_cons_inj _).2 List.nil_prefix, ?_⟩
      rintro _ ⟨⟩
    | ok chunkResult =>
      obtain ⟨segments, hhears, rfl⟩ := hears_of_ok (Windows.window durationSeconds chunkSeconds index) hcall
      obtain ⟨hstart, hok⟩ := ih hrest
        (if (offsetTranscriptionResult (normalizeFasterWhisperResult segments) (index * chunkSeconds)).text = ""
          then allTextParts else allTextParts ++
            [(offsetTranscriptionResult (normalizeFasterWhisperResult segments) (index * chunkSeconds)).text])
        (allSegments ++
          (offsetTranscriptionResult (normalizeFasterWhisperResult segments) (index * chunkSeconds)).segments)
      refine ⟨(List.prefix_cons_inj _).2 hstart, ?_⟩
      intro result hresult
      obtain ⟨hwindows, heard, hheard, hsegments⟩ := hok result hresult
      refine ⟨congrArg _ hwindows, segments :: heard, .cons hhears hheard, ?_⟩
      rw [hsegments, List.append_assoc]
      exact congrArg (fun first => allSegments ++ (first ++ _)) (offsetTranscriptionResult_segments segments
        (Windows.window durationSeconds chunkSeconds index))

-- The order of the segments

/-- What may be meant by one segment standing before another. -/
inductive TimeOrder
  | starts
  | finishes
  | apart

def TimeOrder.Before : TimeOrder → ℚ × ℚ → ℚ × ℚ → Prop
  | .starts, s, t => s.1 ≤ t.1
  | .finishes, s, t => s.2 ≤ t.2
  | .apart, s, t => s.2 ≤ t.1

def ModelSegment.span (segment : ModelSegment) : ℚ × ℚ :=
  (segment.start, segment.finish)

def WhisperSegment.span (segment : WhisperSegment) : ℚ × ℚ :=
  (segment.start.getD 0, segment.finish.getD 0)

/-- The segment lies within a recording of the length. -/
structure ModelSegment.Within (length : ℚ) (segment : ModelSegment) : Prop where
  start : 0 ≤ segment.start ∧ segment.start ≤ length
  finish : 0 ≤ segment.finish ∧ segment.finish ≤ length

/-- The segments of a window lie within it and are in order. -/
def InOrder (order : TimeOrder) (window : ℚ × ℚ) (segments : List ModelSegment) : Prop :=
  (∀ segment ∈ segments, segment.Within window.2) ∧
    segments.Pairwise fun s t => order.Before s.span t.span

theorem before_placed {order : TimeOrder} (window : ℚ × ℚ) {s t : ModelSegment}
    (h : order.Before s.span t.span) : order.Before (s.placed window).span (t.placed window).span := by
  cases order with
  | starts => exact add_le_add_left h window.1
  | finishes => exact add_le_add_left h window.1
  | apart => exact add_le_add_left h window.1

/-- Segments of an earlier window stand before those of a later one. -/
theorem before_placed_of_le (order : TimeOrder) {w v : ℚ × ℚ} (hwv : w.1 + w.2 ≤ v.1) {s t : ModelSegment}
    (hs : s.Within w.2) (ht : t.Within v.2) : order.Before (s.placed w).span (t.placed v).span := by
  have hle : ∀ x y : ℚ, x ≤ w.2 → 0 ≤ y → x + w.1 ≤ y + v.1 := by
    intro x y hx hy
    linarith
  cases order with
  | starts => exact hle _ _ hs.start.2 ht.start.1
  | finishes => exact hle _ _ hs.finish.2 ht.finish.1
  | apart => exact hle _ _ hs.finish.2 ht.start.1

theorem pairwise_placedSegments {order : TimeOrder} {windows : List (ℚ × ℚ)} {heard : List (List ModelSegment)}
    (hwindows : windows.Pairwise fun w v => w.1 + w.2 ≤ v.1) (hheard : windows.Forall₂ (InOrder order) heard) :
    (placedSegments windows heard).Pairwise fun s t => order.Before s.span t.span := by
  obtain ⟨hlength, hinOrder⟩ := List.forall₂_iff_zip.1 hheard
  have hzip : (windows.zip heard).Pairwise fun e f => e.1.1 + e.1.2 ≤ f.1.1 := by
    rw [← List.map_fst_zip hlength.le, List.pairwise_map] at hwindows
    exact hwindows
  rw [placedSegments, List.pairwise_flatMap]
  constructor
  · rintro ⟨window, segments⟩ he
    rw [List.pairwise_map]
    exact (hinOrder he).2.imp (before_placed window)
  · refine hzip.imp_of_mem ?_
    intro e f he hf hle _ hplaced _ hplaced'
    obtain ⟨s, hs, rfl⟩ := List.mem_map.1 hplaced
    obtain ⟨t, ht, rfl⟩ := List.mem_map.1 hplaced'
    exact before_placed_of_le order hle ((hinOrder he).1 s hs) ((hinOrder hf).1 t ht)

theorem probeAudioDuration_pos (h : probeAudioDuration stdout = some durationSeconds) : 0 < durationSeconds := by
  rw [probeAudioDuration, Option.filter_eq_some_iff] at h
  simpa using h.2

/-- A long recording is heard in windows that tile it, and the segments are those of the windows, each moved
to its place. -/
theorem chunked_transcription (transcriber : Transcriber Audio) (env : ChunkEnv) (input : Audio)
    {stdout : Option ℚ} {durationSeconds chunkSeconds : ℚ}
    (hduration : probeAudioDuration stdout = some durationSeconds)
    (hseconds : envFloat env.chunkSeconds (15 * 60) = chunkSeconds) (hchunk : 0 < chunkSeconds)
    (hlong : envFloat env.chunkThresholdSeconds (30 * 60) < durationSeconds) :
    let run := transcribeInProcess transcriber env input stdout
    let windows := Windows.windows durationSeconds chunkSeconds
    Windows.Tiles durationSeconds chunkSeconds windows ∧
      (windows.length : Int) = ⌈durationSeconds / chunkSeconds⌉ ∧
      run.windows <+: windows ∧
      ∀ result, run.outcome = .ok result → run.windows = windows ∧
        ∃ heard, windows.Forall₂ (transcriber.Hears input) heard ∧
          result.segments = placedSegments windows heard ∧
          ∀ order : TimeOrder, windows.Forall₂ (InOrder order) heard →
            result.segments.Pairwise fun s t => order.Before s.span t.span := by
  intro run windows
  have hpositive := probeAudioDuration_pos hduration
  have hrun : run = transcribeChunks transcriber input durationSeconds chunkSeconds
      (List.range ⌈durationSeconds / chunkSeconds⌉₊) [] [] := by
    simp only [run, transcribeInProcess, hduration, hseconds, if_pos (And.intro hchunk hlong)]
    rfl
  have hindices : ∀ index ∈ List.range ⌈durationSeconds / chunkSeconds⌉₊, index * chunkSeconds < durationSeconds :=
    fun index h => (Windows.lt_count_iff hchunk).1 (List.mem_range.1 h)
  have hspec := transcribeChunks_spec transcriber input hchunk hindices [] []
  rw [← hrun] at hspec
  obtain ⟨hstart, hok⟩ := hspec
  refine ⟨Windows.tiles_windows hchunk hpositive, Windows.length_windows hchunk hpositive, hstart, ?_⟩
  intro result hresult
  obtain ⟨hwindows, heard, hheard, hsegments⟩ := hok result hresult
  rw [List.nil_append] at hsegments
  refine ⟨hwindows, heard, hheard, hsegments, ?_⟩
  intro order hinOrder
  rw [hsegments]
  exact pairwise_placedSegments (Windows.pairwise_windows hchunk) hinOrder

/-- A recording as its place and length, in which each stretch says one thing. -/
def oneRemark : Transcriber (ℚ × ℚ) where
  extract audio start duration := .ok (audio.1 + start, duration)
  transcribe _ := .ok (.ok [⟨1, 5 / 2, some " chunk"⟩])

theorem chunked_transcription_three :
    let run := transcribeInProcess oneRemark ⟨some 10, some 10⟩ (0, 25) (some 25)
    Windows.Tiles 25 10 run.windows ∧ run.windows.length = 3 := by
  intro run
  have hduration : probeAudioDuration (some 25) = some 25 := by decide +kernel
  have hok : run.outcome.toOption.isSome = true := by decide +kernel
  obtain ⟨htiles, hlength, -, hheard⟩ := chunked_transcription oneRemark
    ⟨some 10, some 10⟩ (0, 25) hduration (Eq.refl (10 : ℚ)) (by norm_num) (by norm_num [envFloat])
  have hceil : ⌈(25 / 10 : ℚ)⌉ = 3 := by norm_num
  cases hresult : run.outcome with
  | error error =>
    rw [hresult] at hok
    cases hok
  | ok result =>
    have hwindows : run.windows = Windows.windows 25 10 := (hheard result hresult).1
    rw [hceil] at hlength
    rw [hwindows]
    exact ⟨htiles, by exact_mod_cast hlength⟩

end GetOffline
