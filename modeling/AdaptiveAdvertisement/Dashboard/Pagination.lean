import AdaptiveAdvertisement.Dashboard.FailingRequests
import AdaptiveAdvertisement.Library.Number
import AdaptiveAdvertisement.Library.Paging

/-!
# Paginated lists (`dashboard_api/routers`)

The four list endpoints, one definition with their own columns: `list_manifests`
(`manifests.py:136-165`), `list_campaigns` (`campaigns.py:70-96`), `list_assets`
(`assets.py:44-68`), `list_play_events` (`analytics.py:118-145`). Rows are put in one order, which
is the same for every request. A count is a bigint, and so is what OFFSET and LIMIT take; a query
that the database rejects answers 500.
-/

namespace AdaptiveAdvertisement.Dashboard
open Library

def bigintMax : ℕ := 2 ^ 63 - 1

/-- `config.py:69-70`, positive and in the range of the database. -/
structure PageSettings where
  defaultPageSize : ℕ
  maxPageSize : ℕ
  default_pos : 0 < defaultPageSize
  max_pos : 0 < maxPageSize
  max_fits : maxPageSize ≤ bigintMax

def shippedPages : PageSettings := ⟨20, 100, by decide, by decide, by decide⟩

/-- `page_size or default_page_size`. -/
def pageSizeOr (cfg : PageSettings) : Option ℤ → ℤ
  | none => cfg.defaultPageSize
  | some v => if v = 0 then cfg.defaultPageSize else v

def effectivePageSize (cfg : PageSettings) (pageSize : Option ℤ) : ℤ :=
  min (pageSizeOr cfg pageSize) cfg.maxPageSize

structure Pagination where
  total : ℕ
  page : ℤ
  pageSize : ℤ
  pages : ℤ
  deriving DecidableEq

structure ListOut (Out : Type) where
  items : List Out
  pagination : Pagination
  deriving DecidableEq

/-- What one endpoint lists: the condition on every row, the columns of its filter and its order,
and the item that a row is answered with. -/
structure Listing (Row Out : Type) where
  selects : Row → Bool
  filterColumn : Row → String
  orderedBy : Row → ℚ
  rowId : Row → String
  outId : Out → String
  item : Row → Except Raised Out
  same_id : ∀ r o, item r = .ok o → outId o = rowId r

/-- The order in which the database gives the rows, latest first. -/
structure RowOrder {Row Out : Type} (l : Listing Row Out) where
  le : Row → Row → Bool
  le_trans : ∀ a b c, le a b → le b c → le a c
  le_total : ∀ a b, le a b || le b a
  latestFirst : ∀ a b, le a b → l.orderedBy b ≤ l.orderedBy a

structure Table (Row : Type) where
  rows : List Row
  fits : rows.length ≤ bigintMax

/-- `if status:`, so an empty text filters nothing. -/
def textFilter (filter : Option String) (value : String) : Bool :=
  match filter with
  | none => true
  | some text => decide (text = "" ∨ value = text)

/-- `OFFSET` and `LIMIT`. -/
def sqlPage {Row : Type} (offset limit : ℤ) (rows : List Row) : Except HttpError (List Row) :=
  if 0 ≤ offset ∧ offset ≤ bigintMax ∧ 0 ≤ limit ∧ limit ≤ bigintMax then
    .ok ((rows.drop offset.toNat).take limit.toNat)
  else .error serverError

section Lists

variable {Row Out : Type} (cfg : PageSettings) (l : Listing Row Out) (order : RowOrder l)
  (table : Table Row)

def Listing.filtered (filter : Option String) : List Row :=
  table.rows.filter fun r => l.selects r && textFilter filter (l.filterColumn r)

def Listing.query (filter : Option String) : List Row :=
  (l.filtered table filter).mergeSort order.le

def Listing.list (filter : Option String) (page : ℤ) (pageSize : Option ℤ) :
    Except HttpError (ListOut Out) :=
  if page < 1 then .error unprocessable
  else
    let size := effectivePageSize cfg pageSize
    let q := l.query order table filter
    let total := q.length
    (sqlPage ((page - 1) * size) size q).bind fun rows =>
      ((rows.mapM l.item).mapError fun _ => serverError).map fun items =>
        ⟨items, total, page, size, max 1 (((total : ℤ) + size - 1).fdiv size)⟩

end Lists

/-! ### The endpoints -/

structure ManifestRow where
  id : String
  manifestId : String
  title : String
  status : String
  schemaVersion : String
  approvedAt : Option ℚ := none
  enabledAt : Option ℚ := none
  createdAt : ℚ
  updatedAt : ℚ
  audienceTags : Option (List String)

structure ManifestSummary where
  id : String
  manifestId : String
  title : String
  status : String
  schemaVersion : String
  approvedAt : Option ℚ
  enabledAt : Option ℚ
  createdAt : ℚ
  updatedAt : ℚ
  audienceTags : List String

/-- The tags of the row are an attribute, so their default does not stand in for a NULL. -/
def ManifestSummary.modelValidate (r : ManifestRow) : Except Raised ManifestSummary :=
  match r.audienceTags with
  | some tags => .ok ⟨r.id, r.manifestId, r.title, r.status, r.schemaVersion, r.approvedAt,
      r.enabledAt, r.createdAt, r.updatedAt, tags⟩
  | none => .error .valueError

structure CampaignSummary where
  id : String
  name : String
  status : String
  startAt : Option ℚ
  endAt : Option ℚ
  createdAt : ℚ
  updatedAt : ℚ

structure AssetSummary where
  id : String
  assetId : String
  filename : String
  assetType : String
  sizeBytes : ℤ
  status : String
  uploadedAt : ℚ

structure PlayEventOut where
  id : String
  manifestId : String
  activatedAt : ℚ
  reason : Option String
  prevManifestId : Option String
  attentionAtTrigger : Option Number
  receivedAt : ℚ

/-- Not every renderer of answers writes a float that is not finite. -/
def PlayEventOut.rendered (renders : Number → Bool) (e : PlayEventOut) :
    Except Raised PlayEventOut :=
  if e.attentionAtTrigger.all renders then .ok e else .error .valueError

def manifestListing : Listing ManifestRow ManifestSummary where
  selects _ := true
  filterColumn r := r.status
  orderedBy r := r.createdAt
  rowId r := r.id
  outId o := o.id
  item := ManifestSummary.modelValidate
  same_id r o h := by
    obtain ⟨id, _, _, _, _, _, _, _, _, _ | tags⟩ := r
    · cases h
    · cases h
      rfl

def campaignListing : Listing CampaignSummary CampaignSummary where
  selects _ := true
  filterColumn r := r.status
  orderedBy r := r.createdAt
  rowId r := r.id
  outId o := o.id
  item := .ok
  same_id r o h := by cases h; rfl

def assetListing : Listing AssetSummary AssetSummary where
  selects r := r.status == "active"
  filterColumn r := r.assetType
  orderedBy r := r.uploadedAt
  rowId r := r.id
  outId o := o.id
  item := .ok
  same_id r o h := by cases h; rfl

def playEventListing (renders : Number → Bool) : Listing PlayEventOut PlayEventOut where
  selects _ := true
  filterColumn r := r.manifestId
  orderedBy r := r.activatedAt
  rowId r := r.id
  outId o := o.id
  item := PlayEventOut.rendered renders
  same_id r o h := by
    unfold PlayEventOut.rendered at h
    split_ifs at h
    cases h
    rfl

section Endpoints

variable (cfg : PageSettings) (page : ℤ) (pageSize : Option ℤ)

def listManifests (order : RowOrder manifestListing) (table : Table ManifestRow)
    (status : Option String) : Except HttpError (ListOut ManifestSummary) :=
  manifestListing.list cfg order table status page pageSize

def listCampaigns (order : RowOrder campaignListing) (table : Table CampaignSummary)
    (statusFilter : Option String) : Except HttpError (ListOut CampaignSummary) :=
  campaignListing.list cfg order table statusFilter page pageSize

def listAssets (order : RowOrder assetListing) (table : Table AssetSummary)
    (assetType : Option String) : Except HttpError (ListOut AssetSummary) :=
  assetListing.list cfg order table assetType page pageSize

def listPlayEvents (renders : Number → Bool) (order : RowOrder (playEventListing renders))
    (table : Table PlayEventOut) (manifestId : Option String) :
    Except HttpError (ListOut PlayEventOut) :=
  (playEventListing renders).list cfg order table manifestId page pageSize

end Endpoints

/-! ### The law -/

section Law

variable {Row Out : Type} (cfg : PageSettings) (l : Listing Row Out) (order : RowOrder l)
  (table : Table Row) (filter : Option String) (page : ℤ) (pageSize : Option ℤ)

/-- No more rows than the size that was asked for and the one that is reported. -/
structure PageFits (pageSize : Option ℤ) (out : ListOut Out) : Prop where
  reported : (out.items.length : ℤ) ≤ out.pagination.pageSize
  requested : ∀ v, pageSize = some v → (out.items.length : ℤ) ≤ v

/-- Pages 1 to the last answer, and hold every row once. -/
structure Partitions (request : ℤ → Except HttpError (ListOut Out)) (rows : List Row)
    (outs : List (ListOut Out)) : Prop where
  answered : ∀ i (h : i < outs.length), request (i + 1) = .ok outs[i]
  sized : ∀ out ∈ outs, PageFits pageSize out
  once : ((outs.flatMap (·.items)).map l.outId).Perm (rows.map l.rowId)

def Paginated (request : ℤ → Except HttpError (ListOut Out)) (rows : List Row) : Prop :=
  ∃ out, request page = .ok out ∧ out.pagination.total = rows.length ∧
    PageFits pageSize out ∧
    ∃ outs, (outs.length : ℤ) = out.pagination.pages ∧ Partitions l pageSize request rows outs

/-- The size is absent or positive, or nothing is there to be shown, and the offset is one that the
database takes. -/
structure Pageable (rows : List Row) : Prop where
  size : ∀ v, pageSize = some v → 0 < v ∨ v = 0 ∧ rows = []
  offset : (page - 1) * effectivePageSize cfg pageSize ≤ bigintMax

variable {cfg l order table filter page pageSize}

theorem effectivePageSize_le : effectivePageSize cfg pageSize ≤ cfg.maxPageSize :=
  min_le_right _ _

theorem effectivePageSize_pos_iff :
    0 < effectivePageSize cfg pageSize ↔ ∀ v, pageSize = some v → 0 ≤ v := by
  have hdefault := cfg.default_pos
  have hmax := cfg.max_pos
  cases pageSize with
  | none => simp [effectivePageSize, pageSizeOr, hdefault, hmax]
  | some v =>
    simp only [effectivePageSize, pageSizeOr, Option.some.injEq, forall_eq']
    split_ifs <;> omega

theorem effectivePageSize_nonneg_iff :
    0 ≤ effectivePageSize cfg pageSize ↔ 0 < effectivePageSize cfg pageSize := by
  have hdefault := cfg.default_pos
  have hmax := cfg.max_pos
  cases pageSize with
  | none => simp only [effectivePageSize, pageSizeOr]; omega
  | some v =>
    simp only [effectivePageSize, pageSizeOr]
    split_ifs <;> omega

theorem sqlPage_ok_iff {offset limit : ℤ} {rows shown : List Row} :
    sqlPage offset limit rows = .ok shown ↔
      (0 ≤ offset ∧ offset ≤ bigintMax ∧ 0 ≤ limit ∧ limit ≤ bigintMax) ∧
        (rows.drop offset.toNat).take limit.toNat = shown := by
  unfold sqlPage
  split_ifs with h <;> simp [h]

theorem pages_eq {size : ℕ} (hsize : 0 < size) (total : ℕ) :
    max 1 (((total : ℤ) + size - 1).fdiv size) = pageCount size total := by
  have hcast : (total : ℤ) + size - 1 = ((total + size - 1 : ℕ) : ℤ) := by omega
  rw [hcast, Int.fdiv_eq_ediv_of_nonneg _ (Int.natCast_nonneg size), ← Int.natCast_div, pageCount]
  omega

/-- The answer with a page of `rows`. -/
def answer (rows : List Row) (size : ℕ) (page : ℤ) (items : List Out) : ListOut Out :=
  ⟨items, rows.length, page, size, pageCount size rows.length⟩

variable (cfg l order table filter page pageSize) in
structure Answered (out : ListOut Out) (size : ℕ) (items : List Out) : Prop where
  first : 1 ≤ page
  positive : 0 < size
  effective : effectivePageSize cfg pageSize = size
  offset : (page - 1) * size ≤ bigintMax
  shown : (pageOf size (page - 1).toNat (l.query order table filter)).mapM l.item = .ok items
  given : out = answer (l.query order table filter) size page items

theorem toNat_offset {size : ℕ} (hpage : 1 ≤ page) :
    ((page - 1) * (size : ℤ)).toNat = (page - 1).toNat * size := by
  rw [Int.toNat_mul (by omega) (Int.natCast_nonneg size), Int.toNat_natCast]

theorem list_ok_iff {out : ListOut Out} :
    l.list cfg order table filter page pageSize = .ok out ↔
      ∃ size items, Answered cfg l order table filter page pageSize out size items := by
  have hmax := cfg.max_fits
  have hle : effectivePageSize cfg pageSize ≤ cfg.maxPageSize := effectivePageSize_le
  refine ⟨fun h => ?_, fun ⟨size, items, h⟩ => ?_⟩
  · unfold Listing.list at h
    split_ifs at h with hpage
    obtain ⟨shown, hshown, h⟩ := bind_ok h
    obtain ⟨items, hitems, rfl⟩ := map_ok h
    obtain ⟨⟨hoffset, hfits, hlimit, -⟩, rfl⟩ := sqlPage_ok_iff.mp hshown
    have hpos := effectivePageSize_nonneg_iff.mp hlimit
    obtain ⟨size, hsize⟩ := Int.eq_ofNat_of_zero_le hlimit
    rw [hsize] at hoffset hfits hpos hitems ⊢
    rw [toNat_offset (by omega), Int.toNat_natCast] at hitems
    have hsize' : 0 < size := by omega
    exact ⟨size, items, by omega, hsize', hsize, hfits, mapError_ok hitems, by
      rw [pages_eq hsize', answer]⟩
  · obtain ⟨hfirst, hpos, heffective, hoffset, hitems, rfl⟩ := h
    have hstart : 0 ≤ (page - 1) * (size : ℤ) := Int.mul_nonneg (by omega) (by omega)
    have hquery : sqlPage ((page - 1) * (size : ℤ)) size (l.query order table filter) =
        .ok (pageOf size (page - 1).toNat (l.query order table filter)) := by
      refine sqlPage_ok_iff.mpr ⟨⟨hstart, hoffset, by omega, by omega⟩, ?_⟩
      rw [toNat_offset hfirst, Int.toNat_natCast, pageOf]
    unfold Listing.list
    rw [if_neg (by omega), heffective]
    simp only [hquery, Except.bind, hitems, Except.mapError, Except.map, pages_eq hpos, answer]

theorem length_query : (l.query order table filter).length = (l.filtered table filter).length :=
  List.length_mergeSort _

theorem length_query_le : (l.query order table filter).length ≤ bigintMax := by
  rw [length_query]
  exact (List.length_filter_le _ _).trans table.fits

theorem Answered.fits {out : ListOut Out} {size : ℕ} {items : List Out}
    (h : Answered cfg l order table filter page pageSize out size items)
    (hrequested : ∀ v, pageSize = some v → 0 < v ∨ v = 0 ∧ l.filtered table filter = []) :
    PageFits pageSize out := by
  have hlen := (forall₂_of_mapM h.shown).length_eq
  have hle := length_pageOf_le size (page - 1).toNat (l.query order table filter)
  have heffective := h.effective
  rw [h.given]
  refine ⟨by simp only [answer]; omega, fun v hv => ?_⟩
  simp only [answer]
  rcases hrequested v hv with hpos | ⟨rfl, hnone⟩
  · have hmin : effectivePageSize cfg pageSize ≤ v := by
      rw [hv, effectivePageSize, pageSizeOr, if_neg hpos.ne']
      exact min_le_left _ _
    omega
  · have hempty : (l.query order table filter).length = 0 := by rw [length_query, hnone]; rfl
    have hpage : (pageOf size (page - 1).toNat (l.query order table filter)).length = 0 := by
      simp [pageOf, hempty]
    omega

/-- The items of the whole query, page by page, are the items of its pages. -/
theorem answered_page {size : ℕ} {items : List Out} (hpage : 1 ≤ page) (hsize : 0 < size)
    (heffective : effectivePageSize cfg pageSize = size) (hoffset : (page - 1) * size ≤ bigintMax)
    (hitems : (l.query order table filter).mapM l.item = .ok items) :
    Answered cfg l order table filter page pageSize
      (answer (l.query order table filter) size page (pageOf size (page - 1).toNat items)) size
      (pageOf size (page - 1).toNat items) := by
  have hall := forall₂_of_mapM hitems
  have hshown := List.forall₂_take size (List.forall₂_drop ((page - 1).toNat * size) hall)
  exact ⟨hpage, hsize, heffective, hoffset, mapM_of_forall₂ hshown, rfl⟩

theorem outId_of_mapM {rows : List Row} {items : List Out} (h : rows.mapM l.item = .ok items) :
    items.map l.outId = rows.map l.rowId := by
  have hall := forall₂_of_mapM h
  clear h
  induction hall with
  | nil => rfl
  | cons hitem _ ih => rw [List.map_cons, List.map_cons, ih, l.same_id _ _ hitem]

/-- The pages of a query whose rows can all be shown. -/
def allPages (rows : List Row) (size : ℕ) (items : List Out) : List (ListOut Out) :=
  (List.range (pageCount size rows.length)).map fun i : ℕ =>
    answer rows size (i + 1) (pageOf size i items)

theorem flatMap_allPages {rows : List Row} {size : ℕ} {items : List Out} (hsize : 0 < size)
    (hlen : rows.length = items.length) :
    (allPages rows size items).flatMap (·.items) = items := by
  rw [allPages, List.flatMap_map, hlen]
  exact pages_cover hsize items

theorem allPages_answered {size : ℕ} {items : List Out} (hsize : 0 < size)
    (heffective : effectivePageSize cfg pageSize = size)
    (hitems : (l.query order table filter).mapM l.item = .ok items) {i : ℕ}
    (hi : i < pageCount size (l.query order table filter).length) :
    Answered cfg l order table filter (i + 1) pageSize
      (answer (l.query order table filter) size (i + 1) (pageOf size i items)) size
      (pageOf size i items) := by
  have hstart := mul_le_of_lt_pageCount hsize hi
  have hfits : i * size ≤ bigintMax := hstart.trans length_query_le
  have hindex : ((i : ℤ) + 1 - 1) = i := by omega
  have hoffset : ((i : ℤ) + 1 - 1) * size ≤ bigintMax := by
    rw [hindex]
    exact_mod_cast hfits
  have hpage := answered_page (by omega) hsize heffective hoffset hitems
  rwa [hindex, Int.toNat_natCast] at hpage

theorem partitions_allPages {size : ℕ} {items : List Out} (hsize : 0 < size)
    (heffective : effectivePageSize cfg pageSize = size)
    (hitems : (l.query order table filter).mapM l.item = .ok items)
    (hrequested : ∀ v, pageSize = some v → 0 < v ∨ v = 0 ∧ l.filtered table filter = []) :
    Partitions l pageSize (fun p => l.list cfg order table filter p pageSize)
      (l.filtered table filter) (allPages (l.query order table filter) size items) where
  answered i hi := by
    rw [allPages, List.length_map, List.length_range] at hi
    have hanswer := list_ok_iff.mpr ⟨_, _, allPages_answered hsize heffective hitems hi⟩
    simpa [allPages] using hanswer
  sized out hout := by
    obtain ⟨i, hi, rfl⟩ := List.mem_map.mp hout
    exact (allPages_answered hsize heffective hitems (List.mem_range.mp hi)).fits hrequested
  once := by
    rw [flatMap_allPages hsize (forall₂_of_mapM hitems).length_eq, outId_of_mapM hitems]
    exact (List.mergeSort_perm _ _).map _

theorem paginated_of_pageable (hpage : 1 ≤ page)
    (h : Pageable cfg page pageSize (l.filtered table filter))
    (hitems : ∀ r ∈ l.filtered table filter, ∃ o, l.item r = .ok o) :
    Paginated l page pageSize (fun p => l.list cfg order table filter p pageSize)
      (l.filtered table filter) := by
  obtain ⟨items, hitems⟩ : ∃ items, (l.query order table filter).mapM l.item = .ok items :=
    mapM_isOk_iff.mpr fun r hr => hitems r (List.mem_mergeSort.mp hr)
  have hpos : 0 < effectivePageSize cfg pageSize := by
    refine effectivePageSize_pos_iff.mpr fun v hv => ?_
    rcases h.size v hv with hpos | ⟨rfl, -⟩ <;> omega
  obtain ⟨size, heffective⟩ := Int.eq_ofNat_of_zero_le hpos.le
  have hsize : 0 < size := by omega
  have hoffset := h.offset
  rw [heffective] at hoffset
  have hfirst := answered_page hpage hsize heffective hoffset hitems
  exact ⟨_, list_ok_iff.mpr ⟨_, _, hfirst⟩, length_query, hfirst.fits h.size,
    allPages (l.query order table filter) size items, by simp [allPages, answer],
    partitions_allPages hsize heffective hitems h.size⟩

/-- No page may hold a row, and they hold them all. -/
theorem nil_of_sizeZero {request : ℤ → Except HttpError (ListOut Out)} {rows : List Row}
    {outs : List (ListOut Out)} (h : Partitions l (some 0) request rows outs) : rows = [] := by
  have hempty : outs.flatMap (·.items) = [] := by
    refine List.flatMap_eq_nil_iff.mpr fun o ho => ?_
    have hlen := (h.sized o ho).requested 0 rfl
    exact List.length_eq_zero_iff.mp (by omega)
  have hnone := h.once
  rw [hempty, List.map_nil] at hnone
  exact List.map_eq_nil_iff.mp hnone.nil_eq.symm

/-- A row is on one of the pages, and that page was answered. -/
theorem item_of_partitions {size : ℕ} {outs : List (ListOut Out)} {r : Row} (hsize : 0 < size)
    (heffective : effectivePageSize cfg pageSize = size)
    (hcount : outs.length = pageCount size (l.query order table filter).length)
    (h : Partitions l pageSize (fun p => l.list cfg order table filter p pageSize)
      (l.filtered table filter) outs)
    (hr : r ∈ l.filtered table filter) : ∃ o, l.item r = .ok o := by
  have hmem : r ∈ l.query order table filter := List.mem_mergeSort.mpr hr
  obtain ⟨i, hi, hshown⟩ := exists_pageOf hsize hmem
  obtain ⟨size', items, hpage⟩ := list_ok_iff.mp (h.answered i (by omega))
  obtain rfl : size' = size := by
    have hsame := hpage.effective.symm.trans heffective
    omega
  have hindex : ((i : ℤ) + 1 - 1).toNat = i := by omega
  exact mapM_isOk_iff.mp ⟨_, hpage.shown⟩ r (by rwa [hindex])

theorem pageable_of_paginated
    (h : Paginated l page pageSize (fun p => l.list cfg order table filter p pageSize)
      (l.filtered table filter)) :
    Pageable cfg page pageSize (l.filtered table filter) ∧
      ∀ r ∈ l.filtered table filter, ∃ o, l.item r = .ok o := by
  obtain ⟨out, hout, -, -, outs, hcount, hparts⟩ := h
  obtain ⟨size, items, hanswered⟩ := list_ok_iff.mp hout
  have hsize := hanswered.positive
  have heffective := hanswered.effective
  have hlength : outs.length = pageCount size (l.query order table filter).length := by
    rw [hanswered.given] at hcount
    exact Int.ofNat_inj.mp hcount
  refine ⟨⟨fun v hv => ?_, ?_⟩,
    fun r hr => item_of_partitions hsize heffective hlength hparts hr⟩
  · have hpos : 0 < effectivePageSize cfg pageSize := by omega
    rcases (effectivePageSize_pos_iff.mp hpos v hv).lt_or_eq with hpositive | rfl
    · exact Or.inl hpositive
    · subst hv
      exact Or.inr ⟨rfl, nil_of_sizeZero hparts⟩
  · rw [heffective]
    exact hanswered.offset

/-- An endpoint pages its rows exactly when the page can be asked for and every row can be shown. -/
theorem paginated_iff (hpage : 1 ≤ page) :
    Paginated l page pageSize (fun p => l.list cfg order table filter p pageSize)
        (l.filtered table filter) ↔
      Pageable cfg page pageSize (l.filtered table filter) ∧
        ∀ r ∈ l.filtered table filter, ∃ o, l.item r = .ok o :=
  ⟨pageable_of_paginated, fun h => paginated_of_pageable hpage h.1 h.2⟩

end Law

theorem manifestItem_iff (r : ManifestRow) :
    (∃ o, manifestListing.item r = .ok o) ↔ r.audienceTags ≠ none := by
  simp only [manifestListing, ManifestSummary.modelValidate]
  cases r.audienceTags <;> simp

theorem playEventItem_iff (renders : Number → Bool) (r : PlayEventOut) :
    (∃ o, (playEventListing renders).item r = .ok o) ↔
      ∀ x, r.attentionAtTrigger = some x → renders x = true := by
  simp only [playEventListing, PlayEventOut.rendered]
  cases h : r.attentionAtTrigger with
  | none => simp
  | some x => cases hx : renders x <;> simp [hx]

/-- Every list endpoint pages its rows exactly where the size is absent or positive (or zero with
nothing to show) and the offset is in range; the manifests of rows with tags, the play events of
values that can be rendered. -/
theorem lists_paginated_iff (cfg : PageSettings) (page : ℤ) (pageSize : Option ℤ)
    (filter : Option String) (renders : Number → Bool) (hpage : 1 ≤ page) :
    (∀ order table, Paginated manifestListing page pageSize
        (fun p => listManifests cfg p pageSize order table filter)
        (manifestListing.filtered table filter) ↔
      Pageable cfg page pageSize (manifestListing.filtered table filter) ∧
        ∀ r ∈ manifestListing.filtered table filter, r.audienceTags ≠ none) ∧
    (∀ order table, Paginated campaignListing page pageSize
        (fun p => listCampaigns cfg p pageSize order table filter)
        (campaignListing.filtered table filter) ↔
      Pageable cfg page pageSize (campaignListing.filtered table filter)) ∧
    (∀ order table, Paginated assetListing page pageSize
        (fun p => listAssets cfg p pageSize order table filter)
        (assetListing.filtered table filter) ↔
      Pageable cfg page pageSize (assetListing.filtered table filter)) ∧
    (∀ order table, Paginated (playEventListing renders) page pageSize
        (fun p => listPlayEvents cfg p pageSize renders order table filter)
        ((playEventListing renders).filtered table filter) ↔
      Pageable cfg page pageSize ((playEventListing renders).filtered table filter) ∧
        ∀ r ∈ (playEventListing renders).filtered table filter,
          ∀ x, r.attentionAtTrigger = some x → renders x = true) := by
  refine ⟨fun order table => ?_, fun order table => ?_, fun order table => ?_,
    fun order table => ?_⟩
  · refine (paginated_iff hpage).trans (and_congr_right fun _ => ?_)
    exact forall₂_congr fun r _ => manifestItem_iff r
  · refine (paginated_iff hpage).trans (and_iff_left fun r _ => ?_)
    exact ⟨r, rfl⟩
  · refine (paginated_iff hpage).trans (and_iff_left fun r _ => ?_)
    exact ⟨r, rfl⟩
  · refine (paginated_iff hpage).trans (and_congr_right fun _ => ?_)
    exact forall₂_congr fun r _ => playEventItem_iff renders r

/-- Rows of one instant stay as they were. -/
def latestOrder {Row Out : Type} (l : Listing Row Out) : RowOrder l where
  le a b := decide (l.orderedBy b ≤ l.orderedBy a)
  le_trans a b c hab hbc := by
    rw [decide_eq_true_eq] at hab hbc ⊢
    exact hbc.trans hab
  le_total a b := by
    rw [Bool.or_eq_true, decide_eq_true_eq, decide_eq_true_eq]
    exact le_total _ _
  latestFirst a b h := of_decide_eq_true h

def threeCampaigns : Table CampaignSummary where
  rows := [⟨"c-1", "Spring", "active", none, none, 10, 10⟩,
    ⟨"c-2", "Summer", "active", none, none, 20, 20⟩,
    ⟨"c-3", "Autumn", "draft", none, none, 30, 30⟩]
  fits := by decide

theorem threeCampaigns_paginated :
    Paginated campaignListing 2 (some 2)
      (fun p => listCampaigns shippedPages p (some 2) (latestOrder _) threeCampaigns none)
      (campaignListing.filtered threeCampaigns none) :=
  ((lists_paginated_iff shippedPages 2 (some 2) none (fun _ => true) (by decide)).2.1 _ _).mpr
    { size := fun v hv => Or.inl (by cases hv; decide), offset := by decide }

/-- A negative size is taken by the endpoint, and rejected by the database. -/
theorem negativeSize_fails : ¬ ∀ (page : ℤ) (pageSize : Option ℤ) (filter : Option String)
    (table : Table CampaignSummary), 1 ≤ page → Paginated campaignListing page pageSize
      (fun p => listCampaigns shippedPages p pageSize (latestOrder _) table filter)
      (campaignListing.filtered table filter) := by
  intro h
  obtain ⟨out, hout, -⟩ := h 1 (some (-1)) none threeCampaigns (by decide)
  obtain ⟨size, items, hanswered⟩ := list_ok_iff.mp hout
  have hnegative : effectivePageSize shippedPages (some (-1)) = -1 := by decide
  have heffective := hanswered.effective
  omega

end AdaptiveAdvertisement.Dashboard
