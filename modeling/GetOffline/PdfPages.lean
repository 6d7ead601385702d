import GetOffline.PdfSentences
import GetOffline.PythonFloatSum
import GetOffline.Transcripts

set_option autoImplicit true

namespace GetOffline
open Python

-- workers/pdf_ocr.py

structure PdfOcrPage where
  pageNumber : Nat
  text : String
  usedOcr : Bool
deriving DecidableEq

/-- A page of a PDF: what `extract_text` gives, and what `tesseract` reads. -/
structure PdfPage where
  native : String
  ocr : Except Error String

def minNativeTextLength : Nat := 40

/-- A turn of the loop of `extract_pdf_pages`. -/
def extractPdfPage (pageNumber : Nat) (page : PdfPage) : Except Error (Option PdfOcrPage) := do
  let nativeText := cleanText page.native
  if minNativeTextLength ≤ nativeText.length then return some ⟨pageNumber, nativeText, false⟩
  else
    let ocrText := cleanText (← page.ocr)
    let text := if ocrText ≠ "" then ocrText else nativeText
    return if text ≠ "" then some ⟨pageNumber, text, ocrText ≠ ""⟩ else none

def extractPagesFrom : Nat → List PdfPage → Except Error (List PdfOcrPage)
  | _, [] => return []
  | pageNumber, page :: rest => do
    let extracted ← extractPdfPage pageNumber page
    let pages ← extractPagesFrom (pageNumber + 1) rest
    return extracted.toList ++ pages

/-- `extract_pdf_pages`. -/
def extractPdfPages (reader : List PdfPage) : Except Error (List PdfOcrPage) :=
  extractPagesFrom 1 reader

-- workers/handlers.py

/-- The page as a time. -/
def virtualPosition (pageNumber sentenceIndex : Nat) : Float64 :=
  (Float64.ofRatio false (pageNumber - 1) 1).add (Float64.ofRatio false sentenceIndex 1000000)

def ocrSegment (downloadId : Nat) (page : PdfOcrPage) (sentence : String × Nat) : TranscriptSegment where
  downloadId := downloadId
  subtitlePath := "ocr://download/" ++ toString downloadId ++ "/page/" ++ toString page.pageNumber
  startSeconds := virtualPosition page.pageNumber sentence.2
  endSeconds := some (Float64.ofRatio false page.pageNumber 1)
  text := sentence.1

def pageSegments (downloadId : Nat) (page : PdfOcrPage) : List TranscriptSegment :=
  (splitSentences page.text).zipIdx.map (ocrSegment downloadId page)

def LibraryTables.storeOcr (downloadId : Nat) (pages : List PdfOcrPage) (t : LibraryTables) : LibraryTables :=
  { t with
    segments := (pages.flatMap (pageSegments downloadId)).foldl (fun segments segment => segments.insert segment)
      (deleteSegments downloadId t.segments) }

/-- The row that `ocr_pdf` is for. -/
def LibraryTables.isOwnPdf (profileId : String) (downloadId : Nat) (t : LibraryTables) : Bool :=
  downloadId ≠ 0 && (t.ownDownload profileId downloadId).any fun row => lower (orEmptyText row.fileExt) = "pdf"

/-- `ocr_pdf`; there is no `reader` where there is no file and none can be fetched. -/
def ocrPdf (profileId : String) (downloadId : Nat) (reader : Option (List PdfPage)) (t : LibraryTables) :
    Except Error LibraryTables :=
  match t.isOwnPdf profileId downloadId, reader with
  | true, some reader => do
    let pages ← extractPdfPages reader
    return t.storeOcr downloadId pages
  | _, _ => return t

section
variable {page index : Nat}

/-- The place of a sentence, as near as a float comes to it. -/
theorem virtualPosition_spec (hpage : page < 2 ^ 30) (hindex : index < 1000000) :
    ∃ t, (virtualPosition (page + 1) index).toRat = some t ∧ (page : ℚ) ≤ t ∧
      |t - (page + (index : ℚ) / 1000000)| ≤ 3 / 10000000 := by
  have hpage' : (page : ℚ) < 2 ^ 30 := by exact_mod_cast hpage
  have hindex' : (index : ℚ) < 1000000 := by exact_mod_cast hindex
  have hfirst : (Float64.ofRatio false (page + 1 - 1) 1).toRat = some (page : ℚ) := by
    rw [Nat.add_sub_cancel]
    exact Float64.toRat_ofNat (by omega)
  have hratio : (index : ℚ) / (1000000 : Nat) < 1 := by
    rw [div_lt_one (by norm_num)]
    exact_mod_cast hindex
  have hgrid : (2 : ℚ) ^ (-50 : Int) = 1 / 1125899906842624 := by norm_num
  have hgrid' : (2 : ℚ) ^ (-22 : Int) = 1 / 4194304 := by norm_num
  obtain ⟨r, hr, hnonneg, hnear⟩ := Float64.exists_ofRatio (n := index) (d := 1000000) (k := -50) (by decide)
    (by decide) (by linarith) (by rw [hgrid]; linarith)
  rw [hgrid, abs_le] at hnear
  obtain ⟨t, ht, hle, hclose⟩ := Float64.exists_add (k := -22) (by decide)
    (Float64.isBinary64_ofRatio false _ one_ne_zero) hfirst hr (Nat.cast_nonneg page) hnonneg
    (by linarith) (by rw [hgrid']; linarith)
  rw [hgrid', abs_le] at hclose
  refine ⟨t, ht, hle, abs_le.2 ⟨?_, ?_⟩⟩
  · push_cast at hnear
    linarith
  · push_cast at hnear
    linarith

/-- The offset of a sentence does not change the page. -/
theorem toInt_virtualPosition (hpage : page < 2 ^ 30) (hindex : index < 1000000) :
    (virtualPosition (page + 1) index).toInt = .ok page := by
  obtain ⟨t, ht, hle, hnear⟩ := virtualPosition_spec hpage hindex
  have hlast : (index : ℚ) ≤ 999999 := by exact_mod_cast Nat.le_of_lt_succ hindex
  have hfloor : ⌊t⌋ = page := by
    rw [Int.floor_eq_iff]
    constructor
    · exact_mod_cast hle
    · have hhigh := (abs_le.1 hnear).2
      push_cast
      linarith
  rw [Float64.toInt_eq ht ((Nat.cast_nonneg page).trans hle), hfloor]

/-- The places keep the order of the sentences of a page, and of the pages. -/
theorem virtualPosition_lt {page' index' : Nat} (hpage : page < 2 ^ 30) (hpage' : page' < 2 ^ 30)
    (hindex : index < 1000000) (hindex' : index' < 1000000) (h : page < page' ∨ page = page' ∧ index < index') :
    (virtualPosition (page + 1) index).lt (virtualPosition (page' + 1) index') = true := by
  obtain ⟨t, ht, -, hnear⟩ := virtualPosition_spec hpage hindex
  obtain ⟨t', ht', hle', hnear'⟩ := virtualPosition_spec hpage' hindex'
  rw [Float64.lt_iff ht ht']
  have hhigh := (abs_le.1 hnear).2
  have hlow := (abs_le.1 hnear').1
  rcases h with hbefore | ⟨rfl, hbefore⟩
  · have hlast : (index : ℚ) ≤ 999999 := by exact_mod_cast Nat.le_of_lt_succ hindex
    have hnext : (page : ℚ) + 1 ≤ page' := by exact_mod_cast hbefore
    linarith
  · have hnext : (index : ℚ) + 1 ≤ index' := by exact_mod_cast hbefore
    linarith

end

section
variable {t : LibraryTables} {downloadId : Nat} {pages : List PdfOcrPage}

theorem segmentsOf_foldl_insert (id : Nat) (created : List TranscriptSegment)
    (segments : AutoTable TranscriptSegment) :
    segmentsOf id (created.foldl (fun segments segment => segments.insert segment) segments) =
      segmentsOf id segments ++ created.filter fun segment => segment.downloadId = id := by
  induction created generalizing segments with
  | nil => exact (List.append_nil _).symm
  | cons segment created ih =>
    rw [List.foldl_cons, ih, segmentsOf_insert, List.append_assoc, List.filter_cons]
    congr 1
    by_cases h : segment.downloadId = id
    · rw [if_pos h, if_pos (decide_eq_true h), List.singleton_append]
    · rw [if_neg h, if_neg (by simp [h]), List.nil_append]

theorem downloadId_of_mem {segment : TranscriptSegment}
    (h : segment ∈ pages.flatMap (pageSegments downloadId)) :
    segment.downloadId = downloadId := by
  obtain ⟨page, -, hmem⟩ := List.mem_flatMap.1 h
  obtain ⟨sentence, -, rfl⟩ := List.mem_map.1 hmem
  rfl

/-- The segments of the PDF are those of its pages, and those of other downloads stay. -/
theorem segmentsOf_storeOcr (id downloadId : Nat) (pages : List PdfOcrPage) (t : LibraryTables) :
    segmentsOf id (t.storeOcr downloadId pages).segments =
      if id = downloadId then pages.flatMap (pageSegments downloadId) else segmentsOf id t.segments := by
  rw [LibraryTables.storeOcr, segmentsOf_foldl_insert, segmentsOf_deleteSegments]
  split
  · next h =>
    rw [List.nil_append, List.filter_eq_self]
    exact fun segment hsegment => decide_eq_true ((downloadId_of_mem hsegment).trans h.symm)
  · next h =>
    have hnone : (pages.flatMap (pageSegments downloadId)).filter (fun segment => segment.downloadId = id) = [] := by
      rw [List.filter_eq_nil_iff]
      intro segment hsegment hid
      exact h ((of_decide_eq_true hid).symm.trans (downloadId_of_mem hsegment))
    rw [hnone, List.append_nil]

/-- What the page with the number has been read from. -/
def PdfOcrPage.IsOf (pageNumber : Nat) (source : PdfPage) (page : PdfOcrPage) : Prop :=
  page.pageNumber = pageNumber ∧
    (page.text = cleanText source.native ∨ ∃ text, source.ocr = .ok text ∧ page.text = cleanText text)

theorem extractPdfPage_spec {number : Nat} {source : PdfPage} (h : extractPdfPage number source = .ok extracted) :
    (∀ page ∈ extracted, page.IsOf number source) ∧ (cleanText source.native ≠ "" → extracted.isSome) := by
  unfold extractPdfPage at h
  dsimp only at h
  split at h
  · obtain rfl := Except.ok.inj h
    refine ⟨?_, fun _ => rfl⟩
    rintro page hpage
    cases hpage
    exact ⟨rfl, .inl rfl⟩
  · cases hocr : source.ocr with
    | error error =>
      rw [hocr] at h
      cases h
    | ok text =>
      rw [hocr] at h
      obtain rfl := Except.ok.inj h
      by_cases hread : cleanText text ≠ ""
      · rw [if_pos hread, if_pos hread]
        refine ⟨?_, fun _ => rfl⟩
        rintro page hpage
        cases hpage
        exact ⟨rfl, .inr ⟨text, hocr, rfl⟩⟩
      · rw [if_neg hread]
        split
        · refine ⟨?_, fun _ => rfl⟩
          rintro page hpage
          cases hpage
          exact ⟨rfl, .inl rfl⟩
        · next hempty => exact ⟨fun _ => nofun, fun hnative => absurd hnative hempty⟩

theorem extractPagesFrom_spec {number : Nat} {reader : List PdfPage}
    (h : extractPagesFrom number reader = .ok pages) :
    pages.Pairwise (fun page page' => page.pageNumber < page'.pageNumber) ∧
    (∀ page ∈ pages, ∃ index source, reader[index]? = some source ∧ page.IsOf (number + index) source) ∧
    ∀ index source, reader[index]? = some source → cleanText source.native ≠ "" →
      ∃ page ∈ pages, page.pageNumber = number + index := by
  induction reader generalizing number pages with
  | nil =>
    obtain rfl := Except.ok.inj h
    exact ⟨.nil, fun _ hpage => absurd hpage List.not_mem_nil, fun _ _ hsource => nomatch hsource⟩
  | cons source reader ih =>
    unfold extractPagesFrom at h
    cases hextracted : extractPdfPage number source with
    | error error =>
      rw [hextracted] at h
      cases h
    | ok extracted =>
      cases hrest : extractPagesFrom (number + 1) reader with
      | error error =>
        rw [hextracted, hrest] at h
        cases h
      | ok rest =>
        rw [hextracted, hrest] at h
        obtain rfl := Except.ok.inj h
        obtain ⟨hof, hsome⟩ := extractPdfPage_spec hextracted
        obtain ⟨hsorted, hsources, hall⟩ := ih hrest
        refine ⟨?_, ?_, ?_⟩
        · rw [List.pairwise_append]
          refine ⟨?_, hsorted, ?_⟩
          · cases extracted with
            | none => exact .nil
            | some page => exact List.pairwise_singleton _ _
          · intro page hpage page' hpage'
            obtain ⟨index, _, -, hpage', -⟩ := hsources page' hpage'
            rw [(hof page (Option.mem_toList.1 hpage)).1, hpage']
            omega
        · intro page hpage
          rcases List.mem_append.1 hpage with hpage | hpage
          · exact ⟨0, source, rfl, hof page (Option.mem_toList.1 hpage)⟩
          · obtain ⟨index, source', hsource', hpage⟩ := hsources page hpage
            refine ⟨index + 1, source', hsource', ?_⟩
            rw [← Nat.add_assoc, Nat.add_right_comm]
            exact hpage
        · intro index source' hsource' hnative
          cases index with
          | zero =>
            obtain rfl := Option.some.inj hsource'
            obtain ⟨page, rfl⟩ := Option.isSome_iff_exists.1 (hsome hnative)
            exact ⟨page, List.mem_append_left _ (List.mem_singleton_self _), (hof page rfl).1⟩
          | succ index =>
            obtain ⟨page, hpage, hnumber⟩ := hall index source' hsource' hnative
            refine ⟨page, List.mem_append_right _ hpage, ?_⟩
            rw [hnumber]
            omega

/-- Of each page there are not so many sentences that the last ones are taken for the next page's. -/
structure PagesFit (pages : List PdfOcrPage) : Prop where
  positive : ∀ page ∈ pages, page.pageNumber ≠ 0
  bounded : ∀ page ∈ pages, page.pageNumber ≤ 2 ^ 30
  short : ∀ page ∈ pages, (splitSentences page.text).length ≤ 1000000
  sorted : pages.Pairwise fun page page' => page.pageNumber < page'.pageNumber

theorem snd_lt_length {sentences : List String} (h : e ∈ sentences.zipIdx) : e.2 < sentences.length :=
  (List.snd_lt_of_mem_zipIdx h).trans_eq (Nat.add_zero _)

theorem mem_pageSegments {segment : TranscriptSegment} (h : segment ∈ pageSegments downloadId page) :
    ∃ index < (splitSentences page.text).length, segment.text ∈ splitSentences page.text ∧
      segment.startSeconds = virtualPosition page.pageNumber index ∧
      segment.subtitlePath = "ocr://download/" ++ toString downloadId ++ "/page/" ++ toString page.pageNumber ∧
      segment.downloadId = downloadId := by
  obtain ⟨⟨sentence, index⟩, hmem, rfl⟩ := List.mem_map.1 h
  have hindex := snd_lt_length hmem
  exact ⟨index, hindex, List.fst_mem_of_mem_zipIdx hmem, rfl, rfl, rfl⟩

theorem startSeconds_lt (hfits : PagesFit pages) (hpage : page ∈ pages) (hpage' : page' ∈ pages)
    (hindex : index < (splitSentences page.text).length) (hindex' : index' < (splitSentences page'.text).length)
    (h : page.pageNumber < page'.pageNumber ∨ page.pageNumber = page'.pageNumber ∧ index < index') :
    (virtualPosition page.pageNumber index).lt (virtualPosition page'.pageNumber index') = true := by
  obtain ⟨number, hnumber⟩ := Nat.exists_eq_succ_of_ne_zero (hfits.positive page hpage)
  obtain ⟨number', hnumber'⟩ := Nat.exists_eq_succ_of_ne_zero (hfits.positive page' hpage')
  have hmax := hfits.bounded page hpage
  have hmax' := hfits.bounded page' hpage'
  rw [hnumber] at h hmax ⊢
  rw [hnumber'] at h hmax' ⊢
  apply virtualPosition_lt (by omega) (by omega)
  · exact Nat.lt_of_lt_of_le hindex (hfits.short page hpage)
  · exact Nat.lt_of_lt_of_le hindex' (hfits.short page' hpage')
  · omega

theorem pairwise_pageSegments (hfits : PagesFit pages) :
    (pages.flatMap (pageSegments downloadId)).Pairwise fun segment segment' =>
      segment.startSeconds.lt segment'.startSeconds = true := by
  rw [List.pairwise_flatMap]
  constructor
  · intro page hpage
    rw [pageSegments, List.pairwise_map]
    have hsorted : (splitSentences page.text).zipIdx.Pairwise fun a b => a.2 < b.2 := by
      rw [← List.pairwise_map (f := Prod.snd) (R := fun a b : Nat => a < b), List.zipIdx_map_snd]
      exact List.pairwise_lt_range'
    apply hsorted.imp_of_mem
    intro a b ha hb hlt
    exact startSeconds_lt hfits hpage hpage (snd_lt_length ha) (snd_lt_length hb)
      (.inr ⟨rfl, hlt⟩)
  · apply hfits.sorted.imp_of_mem
    intro page page' hpage hpage' hlt segment hsegment segment' hsegment'
    obtain ⟨index, hindex, -, hstart, -⟩ := mem_pageSegments hsegment
    obtain ⟨index', hindex', -, hstart', -⟩ := mem_pageSegments hsegment'
    rw [hstart, hstart']
    exact startSeconds_lt hfits hpage hpage' hindex hindex' (.inl hlt)

/-- What the search shows for a sentence. -/
theorem transcriptResult_page (hfits : PagesFit pages) (hpage : page ∈ pages)
    {segment : TranscriptSegment} (h : segment ∈ pageSegments downloadId page) (row : DownloadRow) :
    ∃ result, transcriptResult segment row = .ok result ∧
      result.positionLabel = "Page " ++ toString page.pageNumber ∧
      result.url = ⟨downloadId, page.pageNumber - 1⟩ := by
  obtain ⟨index, hindex, -, hstart, hpath, hid⟩ := mem_pageSegments h
  obtain ⟨number, hnumber⟩ := Nat.exists_eq_succ_of_ne_zero (hfits.positive page hpage)
  have hmax := hfits.bounded page hpage
  have hint : segment.startSeconds.toInt = .ok number := by
    rw [hstart, hnumber]
    exact toInt_virtualPosition (by omega) (Nat.lt_of_lt_of_le hindex (hfits.short page hpage))
  have hocr : "ocr://".toList.isPrefixOf segment.subtitlePath.toList = true := by
    rw [hpath, String.toList_append, String.toList_append, String.toList_append]
    rfl
  unfold transcriptResult
  rw [hint]
  refine ⟨_, rfl, ?_, ?_⟩
  · dsimp only
    rw [if_pos hocr, hnumber]
    rfl
  · dsimp only
    rw [hid, hnumber, Nat.cast_succ, add_sub_cancel_right]

theorem pagesFit_extractPdfPages (h : extractPdfPages reader = .ok pages) (hcount : reader.length ≤ 2 ^ 30)
    (hshort : ∀ page ∈ pages, (splitSentences page.text).length ≤ 1000000) : PagesFit pages := by
  obtain ⟨hsorted, hsources, -⟩ := extractPagesFrom_spec h
  refine ⟨?_, ?_, hshort, hsorted⟩
  · intro page hpage
    obtain ⟨index, source, -, hnumber, -⟩ := hsources page hpage
    rw [hnumber]
    omega
  · intro page hpage
    obtain ⟨index, source, hsource, hnumber, -⟩ := hsources page hpage
    obtain ⟨hindex, -⟩ := List.getElem?_eq_some_iff.1 hsource
    rw [hnumber]
    omega

theorem texts_pageSegments (downloadId : Nat) (page : PdfOcrPage) :
    (pageSegments downloadId page).map TranscriptSegment.text = splitSentences page.text := by
  rw [pageSegments, List.map_map]
  exact List.zipIdx_map_fst 0 _

/-- Whatever the PDF, its sentences are stored in the order of reading, and the search names each one's page
and leads to it; each page with a text has its sentences there, and no other download's are touched. -/
theorem pdf_searchable (profileId : String) (downloadId : Nat) (reader : List PdfPage) (t t' : LibraryTables)
    (hpdf : t.isOwnPdf profileId downloadId = true) (hocr : ocrPdf profileId downloadId (some reader) t = .ok t')
    (hcount : reader.length ≤ 2 ^ 30)
    (hshort : ∀ pages, extractPdfPages reader = .ok pages → ∀ page ∈ pages,
      (splitSentences page.text).length ≤ 1000000) :
    ∃ pages, extractPdfPages reader = .ok pages ∧
      (∀ index source, reader[index]? = some source → cleanText source.native ≠ "" →
        ∃ page ∈ pages, page.pageNumber = index + 1) ∧
      (segmentsOf downloadId t'.segments).map TranscriptSegment.text =
        pages.flatMap (fun page => splitSentences page.text) ∧
      (segmentsOf downloadId t'.segments).Pairwise (fun segment segment' =>
        segment.startSeconds.lt segment'.startSeconds = true) ∧
      (∀ segment ∈ segmentsOf downloadId t'.segments, ∃ page ∈ pages, ∃ index source,
        reader[index]? = some source ∧ page.IsOf (index + 1) source ∧ segment.text ∈ splitSentences page.text ∧
        ∀ row, ∃ result, transcriptResult segment row = .ok result ∧
          result.positionLabel = "Page " ++ toString page.pageNumber ∧
          result.url = ⟨downloadId, page.pageNumber - 1⟩) ∧
      ∀ other, other ≠ downloadId → segmentsOf other t'.segments = segmentsOf other t.segments := by
  unfold ocrPdf at hocr
  rw [hpdf] at hocr
  dsimp only at hocr
  cases hpages : extractPdfPages reader with
  | error error =>
    rw [hpages] at hocr
    cases hocr
  | ok pages =>
    rw [hpages] at hocr
    obtain rfl := Except.ok.inj hocr
    have hfits := pagesFit_extractPdfPages hpages hcount (hshort pages hpages)
    obtain ⟨-, hsources, hall⟩ := extractPagesFrom_spec hpages
    have hsegments := segmentsOf_storeOcr downloadId downloadId pages t
    rw [if_pos rfl] at hsegments
    refine ⟨pages, rfl, ?_, ?_, ?_, ?_, ?_⟩
    · intro index source hsource hnative
      rw [Nat.add_comm]
      exact hall index source hsource hnative
    · rw [hsegments, List.map_flatMap]
      simp only [texts_pageSegments]
    · rw [hsegments]
      exact pairwise_pageSegments hfits
    · intro segment hsegment
      rw [hsegments] at hsegment
      obtain ⟨page, hpage, hsegment⟩ := List.mem_flatMap.1 hsegment
      obtain ⟨index, source, hsource, hof⟩ := hsources page hpage
      obtain ⟨_, _, htext, -⟩ := mem_pageSegments hsegment
      rw [Nat.add_comm] at hof
      exact ⟨page, hpage, index, source, hsource, hof, htext, transcriptResult_page hfits hpage hsegment⟩
    · intro other hother
      rw [segmentsOf_storeOcr, if_neg hother]

/-- A library with a PDF. -/
def onePdf : LibraryTables :=
  { LibraryTables.empty with
    downloads := (AutoTable.empty.insert
      { sourceType := "podcast", sourceName := "Show", firstSeenAt := 0, lastSeenAt := 0 }).insert
      { sourceType := "manual", sourceName := "Scans", fileExt := some "PDF", firstSeenAt := 0, lastSeenAt := 0 } }

/-- A page that has to be scanned. -/
theorem pdf_searchable_scan : ∃ t' pages, ocrPdf "default" 1 (some [⟨"", .ok "Hi. Bye."⟩]) onePdf = .ok t' ∧
    extractPdfPages [⟨"", .ok "Hi. Bye."⟩] = .ok pages ∧
    (segmentsOf 1 t'.segments).map TranscriptSegment.text = pages.flatMap fun page => splitSentences page.text := by
  have hpdf : onePdf.isOwnPdf "default" 1 = true := by decide +kernel
  have hextract : extractPdfPages [⟨"", .ok "Hi. Bye."⟩] = .ok [⟨1, "Hi. Bye.", true⟩] := by
    decide +kernel
  have hocr : ocrPdf "default" 1 (some [⟨"", .ok "Hi. Bye."⟩]) onePdf =
      .ok (onePdf.storeOcr 1 [⟨1, "Hi. Bye.", true⟩]) := by
    unfold ocrPdf
    rw [hpdf]
    dsimp only
    rw [hextract]
    rfl
  have hshort : (splitSentences ("Hi. Bye.")).length ≤ 1000000 := by decide +kernel
  obtain ⟨pages, hpages, -, htexts, -⟩ := pdf_searchable "default" 1 [⟨"", .ok "Hi. Bye."⟩] onePdf _ hpdf hocr
    (by decide) (by
      intro pages hpages page hpage
      obtain rfl := Except.ok.inj (hextract.symm.trans hpages)
      obtain rfl := List.mem_singleton.1 hpage
      exact hshort)
  exact ⟨_, pages, hocr, hpages, htexts⟩

end

end GetOffline
