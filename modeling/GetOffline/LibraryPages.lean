import GetOffline.Autoplay
import GetOffline.Jobs
import GetOffline.Listings
import GetOffline.Paging
import GetOffline.PythonTime

set_option autoImplicit true

namespace GetOffline
open Python

-- api/services/library.py

/-- `library_filter_counts`. -/
structure FilterCounts where
  all : Nat
  downloaded : Nat
  unplayed : Nat
  played : Nat
  favorites : Nat
  missing : Nat
  retentionDeleted : Nat

/-- The count under the name of the mode. -/
def FilterCounts.get (counts : FilterCounts) : LibraryFilter → Nat
  | .all => counts.all
  | .played => counts.played
  | .favorites => counts.favorites
  | .unplayed => counts.unplayed

namespace LibraryTables

def libraryFilterCounts (profileId : String) (t : LibraryTables) : FilterCounts :=
  let count (p : DownloadRow → Bool) := t.downloads.rows.count fun _ row => row.inLibrary profileId && p row
  let downloaded (p : DownloadRow → Bool) := count fun row => row.hasStatus .downloaded && p row
  { all := count fun _ => true
    downloaded := downloaded fun _ => true
    unplayed := downloaded fun row => !row.played
    played := downloaded fun row => row.played
    favorites := downloaded fun row => row.favorite
    missing := count fun row => row.hasStatus .missing
    retentionDeleted := count fun row => row.hasStatus .retentionDeleted }

end LibraryTables

-- api/views.py

/-- `max(1, (total + page_size - 1) // page_size)`. -/
def totalPages (total : Nat) (pageSize : Int) : Int :=
  max 1 ((total + pageSize - 1) / pageSize)

/-- The `pagination` of an answer. -/
structure Pagination where
  page : Int
  pageSize : Int
  total : Nat
  totalPages : Int

/-- The downloads and the pagination in the answer of `frontend_library`. -/
def LibraryTables.frontendLibraryPage (rules : TextRules) (profileId : String)
    (filter search page pageSize : Option String) (t : LibraryTables) : List EpisodeSummary × Pagination :=
  let params := paginationParams page pageSize
  let (episodes, total) := t.frontendLibrary rules profileId filter search page pageSize
  (episodes, {
    page := params.1
    pageSize := params.2
    total
    totalPages := totalPages total params.2 })

/-- `_job_to_dict`. -/
structure JobSummary where
  id : Nat
  jobType : String
  status : String
  errorMessage : String
  createdAt : String
  updatedAt : String

def jobToDict (id : Nat) (job : Job) : JobSummary where
  id := id
  jobType := job.jobType
  status := StrEnum.value job.status
  errorMessage := orEmptyText job.errorMessage
  createdAt := isoformat job.createdAt
  updatedAt := isoformat job.updatedAt

/-- `order_by("-created_at", "-id")`. -/
def newestFirst (id : Nat) (job : Job) : Int ×ₗ Int :=
  toLex (-job.createdAt, -(id : Int))

def jobsInOrder (profileId : String) (jobs : JobTable) : List (Nat × Job) :=
  jobs.orderBy (fun _ job => job.profileId = profileId) newestFirst

/-- The jobs and the pagination in the answer of `frontend_jobs`. -/
def frontendJobs (profileId : String) (page pageSize : Option String) (jobs : JobTable) :
    List JobSummary × Pagination :=
  let (page, pageSize) := paginationParams page pageSize
  let rows := jobsInOrder profileId jobs
  let total := rows.length
  let page := min page (totalPages total pageSize)
  let sent := (rows.drop ((page - 1) * pageSize).toNat).take pageSize.toNat
  (sent.map fun e => jobToDict e.1 e.2, { page, pageSize, total, totalPages := totalPages total pageSize })

-- Pages of the library

section
variable {rules : TextRules} {profileId searchTerm : String} {mode : LibraryFilter} {t : LibraryTables}

namespace LibraryTables

/-- The rows that a search in a mode meets, in their order. -/
def matchingRows (rules : TextRules) (profileId : String) (mode : LibraryFilter) (searchTerm : String)
    (t : LibraryTables) : List (Nat × DownloadRow) :=
  let search := strip searchTerm
  t.libraryRows profileId fun row => mode.selects row &&
    (search = "" || row.title.any (rules.icontains search) || rules.icontains search row.sourceName)

/-- The size of a page as `paginated_downloads` takes it. -/
def effectiveSize (pageSize : Int) : Int :=
  max 1 (min pageSize 100)

theorem paginatedDownloads_total (page pageSize : Int) :
    (t.paginatedDownloads rules profileId mode searchTerm page pageSize).2 =
      (t.matchingRows rules profileId mode searchTerm).length :=
  rfl

theorem paginatedDownloads_rows (page pageSize : Int) :
    (t.paginatedDownloads rules profileId mode searchTerm page pageSize).1 =
      ((t.matchingRows rules profileId mode searchTerm).drop ((min (max 1 page) (totalPages
        (t.matchingRows rules profileId mode searchTerm).length (effectiveSize pageSize)) - 1) *
          effectiveSize pageSize).toNat).take (effectiveSize pageSize).toNat :=
  rfl

/-- A page that there is. -/
theorem paginatedDownloads_page {page : Nat} {pageSize : Int} (h : page < (totalPages
      (t.matchingRows rules profileId mode searchTerm).length (effectiveSize pageSize)).toNat) :
    (t.paginatedDownloads rules profileId mode searchTerm (page + 1) pageSize).1 =
      Paging.page (effectiveSize pageSize).toNat page (t.matchingRows rules profileId mode searchTerm) := by
  have hmin : min (max 1 ((page : Int) + 1)) (totalPages
      (t.matchingRows rules profileId mode searchTerm).length (effectiveSize pageSize)) = page + 1 := by
    omega
  have hstart : ((page + 1 - 1 : Int) * effectiveSize pageSize).toNat =
      page * (effectiveSize pageSize).toNat := by
    rw [Int.add_sub_cancel, Int.toNat_mul (Int.natCast_nonneg page) (by rw [effectiveSize]; omega),
      Int.toNat_natCast]
  rw [paginatedDownloads_rows, hmin, hstart, Paging.page]

/-- The pages of a search, one after the other. -/
def allPages (rules : TextRules) (profileId : String) (mode : LibraryFilter) (searchTerm : String)
    (pageSize : Int) (t : LibraryTables) : List (Nat × DownloadRow) :=
  let total := (t.paginatedDownloads rules profileId mode searchTerm 1 pageSize).2
  (List.range (totalPages total (effectiveSize pageSize)).toNat).flatMap fun page : Nat =>
    (t.paginatedDownloads rules profileId mode searchTerm (page + 1) pageSize).1

theorem effectiveSize_pos (pageSize : Int) : 0 < effectiveSize pageSize :=
  lt_of_lt_of_le Int.one_pos (le_max_left _ _)

end LibraryTables

/-- The number of pages, rounded up; there is one at least. -/
theorem totalPages_eq (total : Nat) {pageSize : Nat} (h : 0 < pageSize) :
    totalPages total pageSize = max 1 (Paging.pageCount pageSize total : Int) := by
  have hsum : (total : Int) + pageSize - 1 = ((total + pageSize - 1 : Nat) : Int) := by omega
  rw [totalPages, hsum, ← Int.natCast_div, Paging.pageCount]

theorem LibraryTables.allPages_eq (pageSize : Int) :
    t.allPages rules profileId mode searchTerm pageSize =
      t.matchingRows rules profileId mode searchTerm := by
  obtain ⟨size, hsize⟩ := Int.eq_ofNat_of_zero_le (effectiveSize_pos pageSize).le
  have hpos : 0 < size := by
    have hpos := effectiveSize_pos pageSize
    omega
  have hcount : Paging.pageCount size (t.matchingRows rules profileId mode searchTerm).length ≤
      (totalPages (t.matchingRows rules profileId mode searchTerm).length (effectiveSize pageSize)).toNat := by
    rw [hsize, totalPages_eq _ hpos]
    omega
  rw [← Paging.flatMap_pages hpos hcount, allPages, paginatedDownloads_total]
  apply List.flatMap_congr
  intro page hpage
  rw [paginatedDownloads_page (List.mem_range.1 hpage), hsize]
  rfl

end

-- The counts

section
variable {profileId : String} {t : LibraryTables}

/-- What is counted for a mode is what the list shows without a search. -/
theorem length_matchingRows (rules : TextRules) (mode : LibraryFilter) {searchTerm : String}
    (hsearch : strip searchTerm = "") : (t.matchingRows rules profileId mode searchTerm).length =
      (t.libraryFilterCounts profileId).get mode := by
  rw [LibraryTables.matchingRows, hsearch, LibraryTables.libraryRows, Table.length_orderBy]
  cases mode with
  | all => simp [FilterCounts.get, LibraryTables.libraryFilterCounts, LibraryFilter.selects]
  | played => simp [FilterCounts.get, LibraryTables.libraryFilterCounts, LibraryFilter.selects, Bool.and_comm]
  | favorites => simp [FilterCounts.get, LibraryTables.libraryFilterCounts, LibraryFilter.selects, Bool.and_comm]
  | unplayed => simp [FilterCounts.get, LibraryTables.libraryFilterCounts, LibraryFilter.selects, Bool.and_comm]

theorem count_add_count {p q r : κ → ρ → Bool} (t : Table κ ρ)
    (hor : ∀ k row, p k row = (q k row || r k row)) (hand : ∀ k row, (q k row && r k row) = false) :
    t.count p = t.count q + t.count r := by
  rw [Table.count, Table.count, Table.count]
  induction t.entries with
  | nil => rfl
  | cons e entries ih =>
    have hboth := hand e.1 e.2
    rw [List.countP_cons, List.countP_cons, List.countP_cons, ih, hor]
    cases hq : q e.1 e.2 with
    | true =>
      rw [hq, Bool.true_and] at hboth
      simp only [hboth, Bool.or_false, Bool.false_eq_true, ↓reduceIte]
      omega
    | false =>
      simp only [Bool.false_or, Bool.false_eq_true, ↓reduceIte]
      omega

theorem hasStatus_ne {status : DownloadStatus} (other : DownloadStatus) {row : DownloadRow} (hne : status ≠ other)
    (h : row.hasStatus status = true) : row.hasStatus other = false := by
  rw [DownloadRow.hasStatus, decide_eq_true_eq] at h
  rw [DownloadRow.hasStatus, h, decide_eq_false_iff_not]
  revert hne
  cases status <;> cases other <;> decide

/-- A row of the library is there, missing or deleted by the retention, and only one of these. -/
theorem libraryFilterCounts_all (profileId : String) (t : LibraryTables) :
    (t.libraryFilterCounts profileId).all = (t.libraryFilterCounts profileId).downloaded +
      ((t.libraryFilterCounts profileId).missing + (t.libraryFilterCounts profileId).retentionDeleted) := by
  dsimp only [LibraryTables.libraryFilterCounts]
  rw [← count_add_count (p := fun _ row => row.inLibrary profileId &&
    (row.hasStatus .missing || row.hasStatus .retentionDeleted)), ← count_add_count]
  · intro _ row
    simp only [DownloadRow.inLibrary, downloadStatuses, List.any_cons, List.any_nil, Bool.or_false,
      Bool.and_true]
    cases decide (row.profileId = profileId) with
    | true =>
      simp only [Bool.true_and]
      cases row.hasStatus .downloaded <;> cases row.hasStatus .missing <;>
        cases row.hasStatus .retentionDeleted <;> rfl
    | false => rfl
  · intro _ row
    cases hstatus : row.hasStatus .downloaded with
    | true =>
      rw [hasStatus_ne .missing (by decide) hstatus,
        hasStatus_ne .retentionDeleted (by decide) hstatus, Bool.or_false, Bool.and_false,
        Bool.and_false]
    | false => simp only [Bool.false_and, Bool.and_false]
  · intro _ row
    exact Bool.and_or_distrib_left _ _ _
  · intro _ row
    cases hstatus : row.hasStatus .missing with
    | true => rw [hasStatus_ne .retentionDeleted (by decide) hstatus, Bool.and_false, Bool.and_false]
    | false => simp only [Bool.false_and, Bool.and_false]

theorem libraryFilterCounts_downloaded (profileId : String) (t : LibraryTables) :
    (t.libraryFilterCounts profileId).downloaded =
      (t.libraryFilterCounts profileId).played + (t.libraryFilterCounts profileId).unplayed := by
  dsimp only [LibraryTables.libraryFilterCounts]
  apply count_add_count
  · intro _ row
    cases row.played <;> simp
  · intro _ row
    cases row.played <;> simp

end

/-- The row stands before the other one in the library: it was seen later, or at the same time with a greater
key. -/
def SeenLater (d e : Nat × DownloadRow) : Prop :=
  e.2.lastSeenAt < d.2.lastSeenAt ∨ e.2.lastSeenAt = d.2.lastSeenAt ∧ e.1 < d.1

/-- The pages of a search are a partition of what it meets, in order, and the counts agree with them. -/
theorem library_pages (rules : TextRules) (profileId searchTerm : String) (filter : Option String)
    (pageSize : Int) (t : LibraryTables) :
    (∀ page, (t.paginatedDownloads rules profileId (normalizeLibraryFilter filter) searchTerm page pageSize).2 =
        (t.allPages rules profileId (normalizeLibraryFilter filter) searchTerm pageSize).length) ∧
      (∀ e, e ∈ t.allPages rules profileId (normalizeLibraryFilter filter) searchTerm pageSize ↔
        t.downloads.rows.lookup e.1 = some e.2 ∧ e.2.inLibrary profileId = true ∧
          (normalizeLibraryFilter filter).selects e.2 = true ∧ (strip searchTerm = "" ∨
            e.2.title.any (rules.icontains (strip searchTerm)) = true ∨
              rules.icontains (strip searchTerm) e.2.sourceName = true)) ∧
      (t.allPages rules profileId (normalizeLibraryFilter filter) searchTerm pageSize).Pairwise SeenLater ∧
      (strip searchTerm = "" → ∀ page,
        (t.paginatedDownloads rules profileId (normalizeLibraryFilter filter) searchTerm page pageSize).2 =
          (t.libraryFilterCounts profileId).get (normalizeLibraryFilter filter)) ∧
      (t.libraryFilterCounts profileId).all = (t.libraryFilterCounts profileId).downloaded +
        ((t.libraryFilterCounts profileId).missing + (t.libraryFilterCounts profileId).retentionDeleted) ∧
      (t.libraryFilterCounts profileId).downloaded =
        (t.libraryFilterCounts profileId).played + (t.libraryFilterCounts profileId).unplayed := by
  rw [LibraryTables.allPages_eq]
  simp only [LibraryTables.paginatedDownloads_total]
  refine ⟨fun _ => trivial, ?_, ?_, ?_, libraryFilterCounts_all profileId t,
    libraryFilterCounts_downloaded profileId t⟩
  · intro e
    rw [LibraryTables.matchingRows, LibraryTables.libraryRows, Table.mem_orderBy]
    simp only [Bool.and_eq_true, Bool.or_eq_true, decide_eq_true_eq, or_assoc]
  · rw [LibraryTables.matchingRows, LibraryTables.libraryRows]
    refine (Table.orderBy_lt orders_lastSeenFirst).imp ?_
    intro d e hlt
    rw [lastSeenFirst, lastSeenFirst, Prod.Lex.toLex_lt_toLex] at hlt
    rcases hlt with hlater | ⟨hsame, hlarger⟩
    · exact .inl (Int.neg_lt_neg_iff.1 hlater)
    · exact .inr ⟨(Int.neg_inj.1 hsame).symm, Int.ofNat_lt.1 (Int.neg_lt_neg_iff.1 hlarger)⟩
  · intro hsearch _
    exact length_matchingRows rules _ hsearch

-- The pagination of an answer

/-- The block tells which part of the rows has been sent. -/
structure Pagination.Describes (block : Pagination) (rows sent : List α) : Prop where
  pageSize : 1 ≤ block.pageSize
  page : 1 ≤ block.page ∧ block.page ≤ block.totalPages
  total : block.total = rows.length
  totalPages : block.totalPages = max 1 ⌈(block.total / block.pageSize : ℚ)⌉
  sent : sent = (rows.drop ((block.page - 1) * block.pageSize).toNat).take block.pageSize.toNat

theorem totalPages_ceil (total : Nat) {pageSize : Int} (h : 1 ≤ pageSize) :
    totalPages total pageSize = max 1 ⌈(total / pageSize : ℚ)⌉ := by
  obtain ⟨size, rfl⟩ := Int.eq_ofNat_of_zero_le (Int.le_of_lt h)
  have hne : (size : Int) ≠ 0 := by omega
  have hdiv := Int.emod_add_mul_ediv (-(total : Int)) size
  have hlow := Int.emod_nonneg (-(total : Int)) hne
  have hhigh := Int.emod_lt_of_pos (-(total : Int)) h
  have hsum : (total : Int) + size - 1 =
      (size - 1 - -(total : Int) % size) + size * -(-(total : Int) / size) := by
    rw [Int.mul_neg]
    omega
  have hceil : ⌈((total : ℚ) / ((size : Int) : ℚ))⌉ = -(-(total : Int) / size) :=
    Rat.ceil_natCast_div_natCast total size
  rw [totalPages, hceil, hsum, Int.add_mul_ediv_left _ _ hne,
    Int.ediv_eq_zero_of_lt (by omega) (by omega), Int.zero_add]

theorem paginationParams_bounds (page pageSize : Option String) :
    1 ≤ (paginationParams page pageSize).1 ∧ 1 ≤ (paginationParams page pageSize).2 ∧
      (paginationParams page pageSize).2 ≤ 100 := by
  rw [paginationParams]
  omega

section
variable {rules : TextRules} {profileId : String} {filter search page pageSize : Option String}
  {t : LibraryTables} {jobs : JobTable}

/-- `frontend_jobs` takes the page that it reports. -/
theorem describes_frontendJobs :
    (frontendJobs profileId page pageSize jobs).2.Describes
      ((jobsInOrder profileId jobs).map fun e => jobToDict e.1 e.2)
      (frontendJobs profileId page pageSize jobs).1 := by
  obtain ⟨hpage, hsize, -⟩ := paginationParams_bounds page pageSize
  constructor
  · exact hsize
  · exact ⟨le_min hpage (le_max_left _ _), min_le_right _ _⟩
  · exact (List.length_map _).symm
  · exact totalPages_ceil _ hsize
  · rw [frontendJobs]
    simp only [List.map_take, List.map_drop]

/-- What `frontend_library` shows in a search, in order. -/
def LibraryTables.matchingEpisodes (rules : TextRules) (profileId : String) (filter search : Option String)
    (t : LibraryTables) : List EpisodeSummary :=
  (t.matchingRows rules profileId (normalizeLibraryFilter filter) (orEmptyText search)).map
    fun e => episodeToSummary e.1 e.2

/-- `frontend_library` reports the page that was asked for, also where it takes the last one. -/
theorem describes_frontendLibrary_iff :
    (t.frontendLibraryPage rules profileId filter search page pageSize).2.Describes
        (t.matchingEpisodes rules profileId filter search)
        (t.frontendLibraryPage rules profileId filter search page pageSize).1 ↔
      (paginationParams page pageSize).1 ≤ totalPages (t.matchingEpisodes rules profileId filter search).length
        (paginationParams page pageSize).2 := by
  obtain ⟨hpage, hsize, hmax⟩ := paginationParams_bounds page pageSize
  have hlength : (t.matchingEpisodes rules profileId filter search).length =
      (t.matchingRows rules profileId (normalizeLibraryFilter filter) (orEmptyText search)).length :=
    List.length_map _
  rw [hlength]
  constructor
  · exact fun h => h.page.2
  · intro hle
    constructor
    · exact hsize
    · exact ⟨hpage, hle⟩
    · exact hlength.symm
    · exact totalPages_ceil _ hsize
    · have heffective : LibraryTables.effectiveSize (paginationParams page pageSize).2 =
          (paginationParams page pageSize).2 := by
        rw [LibraryTables.effectiveSize]
        omega
      have hsent : (t.frontendLibraryPage rules profileId filter search page pageSize).1 =
          (t.paginatedDownloads rules profileId (normalizeLibraryFilter filter) (orEmptyText search)
            (paginationParams page pageSize).1 (paginationParams page pageSize).2).1.map
              fun e => episodeToSummary e.1 e.2 :=
        rfl
      rw [hsent, LibraryTables.paginatedDownloads_rows, heffective, max_eq_right hpage, min_eq_left hle,
        List.map_take, List.map_drop]
      rfl

end

/-- The pagination of the jobs describes what is sent; that of the library does so unless a page after the
last one is asked for. -/
theorem pagination_blocks_iff (rules : TextRules) (profileId : String)
    (filter search page pageSize : Option String) (t : LibraryTables) (jobs : JobTable) :
    ((t.frontendLibraryPage rules profileId filter search page pageSize).2.Describes
        (t.matchingEpisodes rules profileId filter search)
        (t.frontendLibraryPage rules profileId filter search page pageSize).1 ↔
      (paginationParams page pageSize).1 ≤ totalPages (t.matchingEpisodes rules profileId filter search).length
        (paginationParams page pageSize).2) ∧
    (frontendJobs profileId page pageSize jobs).2.Describes
      ((jobsInOrder profileId jobs).map fun e => jobToDict e.1 e.2)
      (frontendJobs profileId page pageSize jobs).1 :=
  ⟨describes_frontendLibrary_iff, describes_frontendJobs⟩

/-- The second page of an empty library is reported beside the number of its pages, which is one. -/
theorem page_after_the_last : ¬ ∀ (rules : TextRules) (profileId : String)
    (filter search page pageSize : Option String) (t : LibraryTables),
      (t.frontendLibraryPage rules profileId filter search page pageSize).2.Describes
        (t.matchingEpisodes rules profileId filter search)
        (t.frontendLibraryPage rules profileId filter search page pageSize).1 := by
  intro h
  have hle := (h ⟨lower, isIn⟩ "p" none none (some "2") none .empty).page.2
  exact absurd hle (by decide +kernel)

end GetOffline
