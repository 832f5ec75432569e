import AdaptiveAdvertisement.Player.FallbackSelection
import Mathlib.Data.String.Basic

/-!
# The documented priority of the fallback assets (`player/fallback.py`)

The six sources of the module's docstring (27-49) over directories of regular files, beside what
`_resolve` does there. A directory answers as the file system of the image does: a name of more
than 255 bytes raises, a marker is decoded as UTF-8, and `.` is the directory itself.
-/

namespace AdaptiveAdvertisement.Player
open Library

/-! ### Directories -/

structure FileName (name : String) : Prop where
  isName : IsName name
  notParent : name ≠ ".."
  short : name.utf8ByteSize ≤ 255

structure FallbackDir where
  path : Path
  files : Dict String ByteArray
  named : ∀ name ∈ files.keys, FileName name

namespace FallbackDir

variable (d : FallbackDir)

/-- `(d / name).exists()` for a name without a separator. -/
def lookUp (name : String) : Except Raised Bool :=
  if 255 < name.utf8ByteSize then .error .loadError
  else .ok (decide (name = "." ∨ name = ".." ∨ name ∈ d.files.keys))

def readText (name : String) : Except Raised String :=
  match d.files.get name with
  | none => .error .loadError
  | some bytes =>
    match String.fromUTF8? bytes with
    | none => .error .valueError
    | some text => .ok (readBack text)

def assetDir : AssetDir where
  path := d.path
  isThere := .ok true
  names := .ok d.files.keys
  present := d.lookUp
  readText := d.readText

end FallbackDir

/-- The configuration of one search, with its directories. One path is one directory. -/
structure Places where
  assetName : String
  bundle : FallbackDir
  library : Option FallbackDir
  named : assetName = "" ∨ FileName assetName
  apart : ∀ l ∈ library, l.path = bundle.path → l.files = bundle.files

def Places.sources (f : Places) : FallbackSources :=
  ⟨f.assetName, f.bundle.assetDir, f.library.map FallbackDir.assetDir⟩

/-! ### The documented selection -/

inductive Source where
  | explicit
  | selectedLibrary
  | selectedBundle
  | bundleAuto
  | libraryAuto
  | builtin
  deriving DecidableEq

def Source.label : Source → String
  | .explicit => "explicit"
  | .selectedLibrary => "selected-library"
  | .selectedBundle => "selected-bundle"
  | .bundleAuto => "bundle-auto"
  | .libraryAuto => "library-auto"
  | .builtin => "builtin"

def priority : List Source :=
  [.explicit, .selectedLibrary, .selectedBundle, .bundleAuto, .libraryAuto, .builtin]

def assetType (name : String) : Option String := Dict.find (lower (suffix name)) extToType

instance (name : String) : Decidable (IsFileName name) :=
  inferInstanceAs (Decidable (_ ∧ _ ∧ _))

namespace FallbackDir

variable (d : FallbackDir)

def provided (label name : String) : Option Selection :=
  if name ∈ d.files.keys then
    (assetType name).map fun t => ⟨d.path.join name, t, label⟩ else none

/-- The file name that the marker contains, if it is there and contains one. -/
def marked : Option String :=
  (d.files.get selectedMarker).bind fun bytes =>
    (String.fromUTF8? bytes).bind fun text =>
      if IsFileName (strip (readBack text)) then some (strip (readBack text)) else none

def markedIn (dirs : List FallbackDir) (label : String) : Option Selection :=
  d.marked.bind fun name => dirs.findSome? fun s => s.provided label name

/-- The alphabetically first asset of those that count. -/
def firstOf (label : String) (counts : String → Bool) : Option Selection :=
  ((d.files.keys.filter fun n => counts n && (assetType n).isSome).min?).bind (d.provided label)

end FallbackDir

namespace Places

variable (f : Places)

def directories : List FallbackDir := f.bundle :: f.library.toList

def offer : Source → Option Selection
  | .explicit =>
    if f.assetName = "" then none
    else f.directories.findSome? fun s => s.provided "explicit" f.assetName
  | .selectedLibrary => f.library.bind fun l => l.markedIn [l] "selected-library"
  | .selectedBundle => f.bundle.markedIn f.directories "selected-bundle"
  | .bundleAuto => f.bundle.firstOf "bundle-auto" fun n => decide (n ≠ builtinName)
  | .libraryAuto => f.library.bind fun l => l.firstOf "library-auto" fun _ => true
  | .builtin => f.bundle.provided "builtin" builtinName

/-- The asset of the first source that offers one; without one, the error that says so. -/
def documented : Except BundleError BundleState :=
  match priority.findSome? f.offer with
  | some sel => .ok (.of (some sel))
  | none => .error (.missing f.bundle.path (f.library.map FallbackDir.path))

def FollowsPriority : Prop := BundleState.validate f.sources = f.documented

end Places

/-- The marker, if there is one, is text, and a file name in it is one that the file system takes
and that is not a dot in a directory that is itself named like an asset. -/
def FallbackDir.MarkerReads (d : FallbackDir) (dirs : List FallbackDir) : Prop :=
  ∀ bytes, d.files.get selectedMarker = some bytes →
    ∃ text, String.fromUTF8? bytes = some text ∧
      (IsFileName (strip (readBack text)) →
        (strip (readBack text)).utf8ByteSize ≤ 255 ∧
          (strip (readBack text) = "." → ∀ s ∈ dirs, typeOf s.path = none))

structure MarkersRead (f : Places) : Prop where
  library : f.offer .explicit = none → ∀ l ∈ f.library, l.MarkerReads [l]
  bundle : f.offer .explicit = none → f.offer .selectedLibrary = none →
    f.bundle.MarkerReads f.directories

/-! ### One directory -/

section FallbackDir

variable {d : FallbackDir} {name : String} (label : String)

theorem typeOf_file (p : Path) (h : IsName name) : typeOf (p.join name) = assetType name := by
  rw [typeOf, name_join p h]
  rfl

theorem present_eq (hshort : name.utf8ByteSize ≤ 255) : d.assetDir.present name =
    .ok (decide (name = "." ∨ name = ".." ∨ name ∈ d.files.keys)) :=
  if_neg (not_lt.mpr hshort)

theorem marker_present (d : FallbackDir) :
    d.assetDir.present selectedMarker = .ok (d.files.get selectedMarker).isSome := by
  have hmem : decide (selectedMarker ∈ d.files.keys) = (d.files.get selectedMarker).isSome := by
    rw [Bool.eq_iff_iff, decide_eq_true_iff, Dict.get_isSome_iff]
  have hname : selectedMarker ≠ "." ∧ selectedMarker ≠ ".." := by decide
  rw [present_eq (by decide +kernel), ← hmem]
  simp [hname]

theorem provided_none (h : ¬ FileName name) : d.provided label name = none :=
  if_neg fun hmem => h (d.named name hmem)

theorem find_provided (h : FileName name) :
    d.assetDir.find name label = .ok (d.provided label name) := by
  have hlook : d.assetDir.present name = .ok (decide (name ∈ d.files.keys)) := by
    rw [present_eq h.short]
    simp [h.isName.2.2, h.notParent]
  have hselect : select (d.path.join name) label =
      (assetType name).map fun t => ⟨d.path.join name, t, label⟩ := by
    rw [select, typeOf_file d.path h.isName]
  rw [AssetDir.find, hlook, FallbackDir.provided, ← hselect]
  by_cases hmem : name ∈ d.files.keys
  · simp [Except.map, hmem, FallbackDir.assetDir]
  · simp [Except.map, hmem]

theorem find_long (h : 255 < name.utf8ByteSize) :
    d.assetDir.find name label = .error .loadError := by
  simp [AssetDir.find, FallbackDir.assetDir, FallbackDir.lookUp, h, Except.map]

theorem join_dot (p : Path) : p.join "." = p := by
  have hnone : components "." = [] := by decide +kernel
  have hrel : rootOf "." = .relative := by decide
  simp [Path.join, hnone, hrel]

theorem find_dot : d.assetDir.find "." label = .ok (select d.path label) := by
  have hlook : d.assetDir.present "." = .ok true := by
    rw [present_eq (by decide +kernel)]
    simp
  have hpath : d.assetDir.path.join "." = d.path := join_dot d.path
  rw [AssetDir.find, hlook, hpath]
  rfl

/-- What a marker can name: a file of the directory, or none of its files. -/
theorem find_named (hfile : IsFileName name) (hshort : name.utf8ByteSize ≤ 255)
    (hdot : name = "." → typeOf d.path = none) :
    d.assetDir.find name label = .ok (d.provided label name) := by
  by_cases hhere : name = "."
  · subst hhere
    have hnone : select d.path label = none := (select_none_iff _ _).mpr (hdot rfl)
    rw [find_dot, provided_none label fun h => h.isName.2.2 rfl, hnone]
  have hname : IsName name := ⟨hfile.2.1, hfile.1, hhere⟩
  by_cases hparent : name = ".."
  · subst hparent
    have htype : typeOf (d.path.join "..") = none := by
      rw [typeOf_file d.path hname]
      decide +kernel
    rw [provided_none label fun h => h.notParent rfl]
    refine (find_none_iff _ _ _).mpr ⟨true, ?_, fun _ => htype⟩
    rw [present_eq (by decide +kernel)]
    simp
  · exact find_provided label ⟨hname, hparent, hshort⟩

/-! ### The marker of a directory -/

variable {other : Option FallbackDir} {bytes : ByteArray} {text : String}

theorem orElse_none {α : Type} (second : Except Raised (Option α)) :
    orElse (.ok none) second = second := rfl

theorem orElse_ok {α : Type} (a b : Option α) :
    orElse (.ok a : Except Raised (Option α)) (.ok b) = .ok (a.or b) := by
  cases a <;> rfl

theorem findSome?_cons_or {α β : Type} (g : α → Option β) (a : α) (as : List α) :
    (a :: as).findSome? g = (g a).or (as.findSome? g) := by
  cases h : g a <;> simp [h]

theorem findSome?_pair {α β : Type} (g : α → Option β) (a b : α) :
    [a, b].findSome? g = (g a).or (g b) := by
  rw [findSome?_cons_or, List.findSome?_singleton]

theorem stage_text (hbytes : d.files.get selectedMarker = some bytes)
    (htext : String.fromUTF8? bytes = some text) :
    d.assetDir.trySelectedMarker (other.map FallbackDir.assetDir) label =
      d.assetDir.namedBy (readBack text) (other.map FallbackDir.assetDir) label := by
  have hread : d.assetDir.readText selectedMarker = .ok (readBack text) := by
    simp [FallbackDir.assetDir, FallbackDir.readText, hbytes, htext]
  simp [AssetDir.trySelectedMarker, marker_present, hbytes, hread]

theorem namedBy_named (hfile : IsFileName (strip text)) :
    d.assetDir.namedBy text (other.map FallbackDir.assetDir) label =
      orElse (d.assetDir.find (strip text) label)
        (match other with
          | some s => if s.path ≠ d.path then s.assetDir.find (strip text) label else .ok none
          | none => .ok none) := by
  unfold AssetDir.namedBy
  rw [if_neg fun h => (ignored_iff _).mp h hfile]
  cases other <;> rfl

theorem provided_same (name : String) {s : FallbackDir} (hpath : s.path = d.path)
    (hfiles : s.files = d.files) :
    s.provided label name = d.provided label name := by
  unfold FallbackDir.provided
  rw [hpath, hfiles]

theorem namedBy_provided (hapart : ∀ s ∈ other, s.path = d.path → s.files = d.files)
    (hfile : IsFileName (strip text)) (hshort : (strip text).utf8ByteSize ≤ 255)
    (hdot : strip text = "." → ∀ s ∈ d :: other.toList, typeOf s.path = none) :
    d.assetDir.namedBy text (other.map FallbackDir.assetDir) label =
      .ok ((d :: other.toList).findSome? fun s => s.provided label (strip text)) := by
  rw [namedBy_named label hfile,
    find_named label hfile hshort fun hd => hdot hd d List.mem_cons_self]
  cases other with
  | none => simp [orElse_ok]
  | some s =>
    by_cases hpath : s.path = d.path
    · have hsame := provided_same label (strip text) hpath (hapart s rfl hpath)
      simp [orElse_ok, findSome?_pair, hpath, hsame]
    · have hs := find_named (d := s) label hfile hshort fun hd => hdot hd s (by simp)
      simp [orElse_ok, findSome?_pair, hpath, hs]

theorem marked_text (hbytes : d.files.get selectedMarker = some bytes)
    (htext : String.fromUTF8? bytes = some text) :
    d.marked = if IsFileName (strip (readBack text)) then some (strip (readBack text))
      else none := by
  simp [FallbackDir.marked, hbytes, htext]

/-- A marker that reads well leads to what it is documented to lead to. -/
theorem trySelectedMarker_reads (other : Option FallbackDir)
    (hapart : ∀ s ∈ other, s.path = d.path → s.files = d.files)
    (h : d.MarkerReads (d :: other.toList)) :
    d.assetDir.trySelectedMarker (other.map FallbackDir.assetDir) label =
      .ok (d.markedIn (d :: other.toList) label) := by
  cases hbytes : d.files.get selectedMarker with
  | none =>
    simp [AssetDir.trySelectedMarker, marker_present, FallbackDir.markedIn, FallbackDir.marked,
      hbytes]
  | some bytes =>
    obtain ⟨text, htext, hgood⟩ := h bytes hbytes
    rw [stage_text label hbytes htext, FallbackDir.markedIn, marked_text hbytes htext]
    by_cases hfile : IsFileName (strip (readBack text))
    · rw [if_pos hfile]
      exact namedBy_provided label hapart hfile (hgood hfile).1 (hgood hfile).2
    · rw [if_neg hfile]
      unfold AssetDir.namedBy
      exact if_pos ((ignored_iff _).mpr hfile)

theorem select_source {p : Path} {sel : Selection} (h : select p label = some sel) :
    sel.source = label := by
  obtain ⟨t, -, rfl⟩ := Option.map_eq_some_iff.mp h
  rfl

theorem namedBy_dot (hdot : strip text = ".") {s : FallbackDir} (hs : s ∈ d :: other.toList)
    (htype : typeOf s.path ≠ none) :
    ∃ sel, d.assetDir.namedBy text (other.map FallbackDir.assetDir) label = .ok (some sel) ∧
      sel.source = label := by
  have hfile : IsFileName (strip text) := by
    rw [hdot]
    exact ⟨by decide, by decide, by decide⟩
  rw [namedBy_named label hfile, hdot, find_dot]
  cases hsel : select d.path label with
  | some sel => exact ⟨sel, rfl, select_source label hsel⟩
  | none =>
    have hown := (select_none_iff _ _).mp hsel
    have hother : other = some s := by
      rcases List.mem_cons.mp hs with rfl | hmem
      · exact absurd hown htype
      · exact Option.mem_toList.mp hmem
    subst hother
    have hpath : s.path ≠ d.path := by
      intro hsame
      rw [hsame] at htype
      exact htype hown
    cases hsel' : select s.path label with
    | some sel =>
      exact ⟨sel, by simp [orElse, hpath, find_dot, hsel'], select_source label hsel'⟩
    | none => exact absurd ((select_none_iff _ _).mp hsel') htype

/-- One that does not is documented to lead nowhere, and raises or selects a directory. -/
theorem trySelectedMarker_misreads (other : Option FallbackDir)
    (h : ¬ d.MarkerReads (d :: other.toList)) :
    d.markedIn (d :: other.toList) label = none ∧
      ((∃ e, d.assetDir.trySelectedMarker (other.map FallbackDir.assetDir) label = .error e) ∨
        ∃ sel, d.assetDir.trySelectedMarker (other.map FallbackDir.assetDir) label =
          .ok (some sel) ∧ sel.source = label) := by
  unfold FallbackDir.MarkerReads at h
  push Not at h
  obtain ⟨bytes, hbytes, h⟩ := h
  cases htext : String.fromUTF8? bytes with
  | none =>
    have hread : d.assetDir.readText selectedMarker = .error .valueError := by
      simp [FallbackDir.assetDir, FallbackDir.readText, hbytes, htext]
    refine ⟨by simp [FallbackDir.markedIn, FallbackDir.marked, hbytes, htext],
      Or.inl ⟨.valueError, ?_⟩⟩
    simp [AssetDir.trySelectedMarker, marker_present, hbytes, hread]
  | some text =>
    obtain ⟨hfile, hbad⟩ := h text htext
    rw [stage_text label hbytes htext, FallbackDir.markedIn, marked_text hbytes htext, if_pos hfile]
    by_cases hshort : (strip (readBack text)).utf8ByteSize ≤ 255
    · obtain ⟨hdot, s, hs, htype⟩ := hbad hshort
      refine ⟨?_, Or.inr (namedBy_dot label hdot hs htype)⟩
      rw [hdot]
      exact List.findSome?_eq_none_iff.mpr fun s _ => provided_none label fun h => h.isName.2.2 rfl
    · refine ⟨?_, Or.inl ⟨.loadError, ?_⟩⟩
      · exact List.findSome?_eq_none_iff.mpr fun s _ =>
          provided_none label fun h => hshort h.short
      · rw [namedBy_named label hfile, find_long label (not_le.mp hshort)]
        rfl

end FallbackDir

/-! ### The scans -/

section Scan

/-- Of a sorted list the first element with a value is the least one with a value. -/
theorem findSome?_sorted {α β : Type} [LinearOrder α] {g : α → Option β} {l : List α}
    (h : l.Pairwise (· ≤ ·)) :
    l.findSome? g = ((l.filter fun a => (g a).isSome).min?).bind g := by
  induction l with
  | nil => rfl
  | cons a as ih =>
    obtain ⟨hle, hrest⟩ := List.pairwise_cons.mp h
    cases ha : g a with
    | none => simp [ha, ih hrest]
    | some b =>
      have hmin : ((a :: as).filter fun c => (g c).isSome).min? = some a := by
        refine List.min?_eq_some_iff.mpr ⟨by simp [ha], fun c hc => ?_⟩
        rcases List.mem_cons.mp (List.mem_filter.mp hc).1 with rfl | hmem
        · exact le_rfl
        · exact hle c hmem
      rw [hmin, Option.bind_some, List.findSome?_cons, ha]

theorem findSome?_congr {α β : Type} {g g' : α → Option β} {l : List α}
    (h : ∀ a ∈ l, g a = g' a) : l.findSome? g = l.findSome? g' := by
  induction l with
  | nil => rfl
  | cons a as ih =>
    have hrest := ih fun b hb => h b (List.mem_cons_of_mem a hb)
    rw [List.findSome?_cons, List.findSome?_cons, h a List.mem_cons_self, hrest]

theorem min?_perm {α : Type} [LinearOrder α] {l l' : List α} (h : l.Perm l') :
    l.min? = l'.min? := by
  cases hmin : l'.min? with
  | none =>
    rw [List.min?_eq_none_iff] at hmin ⊢
    exact List.perm_nil.mp (hmin ▸ h)
  | some a =>
    rw [List.min?_eq_some_iff] at hmin ⊢
    exact ⟨h.mem_iff.mpr hmin.1, fun b hb => hmin.2 b (h.mem_iff.mp hb)⟩

variable {d : FallbackDir} (label : String)

theorem provided_isSome {name : String} (h : name ∈ d.files.keys) :
    (d.provided label name).isSome = (assetType name).isSome := by
  rw [FallbackDir.provided, if_pos h, Option.isSome_map]

/-- The scan of the names in order finds the first asset that counts, whatever names without a
type are skipped beside. -/
theorem first_firstOf {skip : List String} {counts : String → Bool}
    (hskip : ∀ n, (assetType n).isSome = true → (counts n = true ↔ n ∉ skip)) :
    d.assetDir.first skip label = .ok (d.firstOf label counts) := by
  let kept : String → Option Selection := fun n => if n ∈ skip then none else d.provided label n
  have hkept : ∀ n ∈ d.files.keys,
      (if n ∈ skip then none else select (d.assetDir.path.join n) label) = kept n := by
    intro n hn
    have hselect : select (d.path.join n) label = d.provided label n := by
      rw [FallbackDir.provided, if_pos hn, select, typeOf_file d.path (d.named n hn).isName]
    show (if n ∈ skip then none else select (d.path.join n) label) = kept n
    rw [hselect]
  have hfilter : ∀ n ∈ d.files.keys,
      (kept n).isSome = (counts n && (assetType n).isSome) := by
    intro n hn
    have hprovided := provided_isSome (d := d) label hn
    cases htype : (assetType n).isSome with
    | false =>
      rw [htype] at hprovided
      by_cases hs : n ∈ skip <;> simp [kept, hs, hprovided]
    | true =>
      rw [htype] at hprovided
      have hcounts := hskip n htype
      by_cases hs : n ∈ skip
      · have hno : counts n = false := by simpa [hs] using hcounts
        simp [kept, hs, hno]
      · have hyes : counts n = true := by simpa [hs] using hcounts
        simp [kept, hs, hyes, hprovided]
  have hsorted : d.assetDir.first skip label =
      .ok ((d.files.keys.insertionSort fun a b => a ≤ b).findSome? kept) := by
    refine congrArg Except.ok (findSome?_congr fun n hn => hkept n ?_)
    exact (List.mem_insertionSort _).mp hn
  have hperm : ((d.files.keys.insertionSort fun a b => a ≤ b).filter
      fun n => (kept n).isSome).Perm (d.files.keys.filter
        fun n => counts n && (assetType n).isSome) := by
    refine (List.Perm.filter _ (List.perm_insertionSort _ _)).trans ?_
    rw [List.filter_congr fun n hn => hfilter n hn]
  rw [hsorted, findSome?_sorted (List.pairwise_insertionSort _ _), min?_perm hperm]
  unfold FallbackDir.firstOf
  refine congrArg Except.ok (Option.bind_congr fun n hn => ?_)
  obtain ⟨hmem, hcounts⟩ := List.mem_filter.mp (List.min?_mem hn)
  have hboth : counts n = true ∧ (assetType n).isSome = true := by simpa using hcounts
  have hfree : n ∉ skip := (hskip n hboth.2).mp hboth.1
  simp [kept, hfree]

end Scan

/-! ### The whole search -/

section Search

variable {f : Places}

theorem explicit_eq (f : Places) : f.sources.explicit = .ok (f.offer .explicit) := by
  unfold FallbackSources.explicit Places.offer
  show (if f.assetName = "" then Except.ok none else _) = _
  by_cases hempty : f.assetName = ""
  · simp [hempty]
  · have hname := f.named.resolve_left hempty
    have hbundle := find_provided (d := f.bundle) "explicit" hname
    rw [if_neg hempty, if_neg hempty]
    show orElse (f.bundle.assetDir.find f.assetName "explicit") _ = _
    rw [hbundle, Places.directories]
    cases hlib : f.library with
    | none => simp [FallbackSources.overLibrary, Places.sources, hlib, orElse_ok]
    | some l =>
      have hl := find_provided (d := l) "explicit" hname
      have hover : f.sources.overLibrary (fun library => library.find f.assetName "explicit") =
          .ok (l.provided "explicit" f.assetName) := by
        simp [FallbackSources.overLibrary, Places.sources, hlib, hl]
      show orElse _ (f.sources.overLibrary fun library => library.find f.assetName "explicit") = _
      rw [hover, orElse_ok, Option.toList_some, findSome?_pair]

theorem libraryAuto_eq (f : Places) : f.sources.libraryAuto = .ok (f.offer .libraryAuto) := by
  unfold FallbackSources.libraryAuto FallbackSources.overLibrary Places.sources Places.offer
  cases f.library with
  | none => rfl
  | some l =>
    refine first_firstOf "library-auto" fun n htype => ?_
    have hmarker : n ≠ selectedMarker := by
      rintro rfl
      exact absurd htype (by decide +kernel)
    simpa using hmarker

theorem bundleAuto_eq (f : Places) : f.sources.bundleAuto = .ok (f.offer .bundleAuto) := by
  refine first_firstOf "bundle-auto" fun n htype => ?_
  have hmarker : n ≠ selectedMarker := by
    rintro rfl
    exact absurd htype (by decide +kernel)
  have hkeep : n ≠ ".gitkeep" := by
    rintro rfl
    exact absurd htype (by decide +kernel)
  simp [reserved, hmarker, hkeep]

theorem builtin_eq (f : Places) : f.sources.builtin = .ok (f.offer .builtin) :=
  find_provided "builtin" ⟨⟨by decide, by decide, by decide⟩, by decide, by decide +kernel⟩

theorem markerReads_pair {d : FallbackDir} : d.MarkerReads [d, d] ↔ d.MarkerReads [d] := by
  simp [FallbackDir.MarkerReads]

theorem markedIn_pair (d : FallbackDir) (label : String) :
    d.markedIn [d, d] label = d.markedIn [d] label := by
  unfold FallbackDir.markedIn
  refine congrArg _ (funext fun name => ?_)
  rw [findSome?_pair, Option.or_self, List.findSome?_singleton]

theorem libraryMarker_of (l : FallbackDir) (hlib : f.library = some l) :
    f.sources.libraryMarker =
      l.assetDir.trySelectedMarker ((some l).map FallbackDir.assetDir) "selected-library" := by
  simp [FallbackSources.libraryMarker, FallbackSources.overLibrary, Places.sources, hlib,
    AssetDir.whenThere, FallbackDir.assetDir]

theorem libraryMarker_reads (h : ∀ l ∈ f.library, l.MarkerReads [l]) :
    f.sources.libraryMarker = .ok (f.offer .selectedLibrary) := by
  cases hlib : f.library with
  | none =>
    simp [FallbackSources.libraryMarker, FallbackSources.overLibrary, Places.sources, hlib,
      Places.offer]
  | some l =>
    have hreads := trySelectedMarker_reads "selected-library" (some l)
      (fun s hs _ => by rw [Option.mem_some_iff.mp hs])
      (markerReads_pair.mpr (h l hlib))
    rw [libraryMarker_of l hlib, hreads, Option.toList_some, markedIn_pair]
    simp [Places.offer, hlib]

theorem bundleMarker_reads (h : f.bundle.MarkerReads f.directories) :
    f.sources.bundleMarker = .ok (f.offer .selectedBundle) :=
  trySelectedMarker_reads "selected-bundle" f.library f.apart h

theorem resolve_eq (f : Places) : f.sources.resolve =
    orElse (.ok (f.offer .explicit)) (orElse f.sources.libraryMarker
      (orElse f.sources.bundleMarker (orElse (.ok (f.offer .bundleAuto))
        (orElse (.ok (f.offer .libraryAuto)) (.ok (f.offer .builtin)))))) := by
  rw [← explicit_eq, ← bundleAuto_eq, ← libraryAuto_eq, ← builtin_eq]
  rfl

theorem follows_of_resolve (h : f.sources.resolve = .ok (priority.findSome? f.offer)) :
    f.FollowsPriority := by
  have hlibrary : f.sources.library.map AssetDir.path = f.library.map FallbackDir.path := by
    cases hlib : f.library <;> simp [Places.sources, hlib, FallbackDir.assetDir]
  unfold Places.FollowsPriority BundleState.validate Places.documented
  rw [h]
  cases priority.findSome? f.offer with
  | none =>
    show Except.error (BundleError.missing _ (f.sources.library.map AssetDir.path)) = _
    rw [hlibrary]
    rfl
  | some sel => rfl

/-! ### Where a marker misleads -/

theorem provided_source {d : FallbackDir} {label name : String} {sel : Selection}
    (h : d.provided label name = some sel) : sel.source = label := by
  unfold FallbackDir.provided at h
  split at h
  · obtain ⟨t, -, rfl⟩ := Option.map_eq_some_iff.mp h
    rfl
  · cases h

theorem firstOf_source {d : FallbackDir} {label : String} {counts : String → Bool}
    {sel : Selection} (h : d.firstOf label counts = some sel) : sel.source = label := by
  obtain ⟨n, -, hn⟩ := Option.bind_eq_some_iff.mp h
  exact provided_source hn

theorem markedIn_source {d : FallbackDir} {dirs : List FallbackDir} {label : String}
    {sel : Selection} (h : d.markedIn dirs label = some sel) : sel.source = label := by
  obtain ⟨n, -, hn⟩ := Option.bind_eq_some_iff.mp h
  obtain ⟨s, -, hs⟩ := List.exists_of_findSome?_eq_some hn
  exact provided_source hs

theorem offer_source {src : Source} {sel : Selection} (h : f.offer src = some sel) :
    sel.source = src.label := by
  cases src with
  | explicit =>
    by_cases hempty : f.assetName = ""
    · simp [Places.offer, hempty] at h
    · simp only [Places.offer, if_neg hempty] at h
      obtain ⟨s, -, hs⟩ := List.exists_of_findSome?_eq_some h
      exact provided_source hs
  | selectedLibrary =>
    obtain ⟨l, -, hl⟩ := Option.bind_eq_some_iff.mp h
    exact markedIn_source hl
  | selectedBundle => exact markedIn_source h
  | bundleAuto => exact firstOf_source h
  | libraryAuto =>
    obtain ⟨l, -, hl⟩ := Option.bind_eq_some_iff.mp h
    exact firstOf_source hl
  | builtin => exact provided_source h

theorem label_injective : Function.Injective Source.label := by
  intro a b h
  cases a <;> cases b <;> first | rfl | exact absurd h (by decide)

theorem not_follows (src : Source) (hnone : f.offer src = none)
    (h : (∃ e, f.sources.resolve = .error e) ∨
      ∃ sel, f.sources.resolve = .ok (some sel) ∧ sel.source = src.label) :
    ¬ f.FollowsPriority := by
  intro hfollows
  unfold Places.FollowsPriority BundleState.validate Places.documented at hfollows
  rcases h with ⟨e, hraised⟩ | ⟨sel, hsel, hlabel⟩
  · rw [hraised] at hfollows
    cases hfound : priority.findSome? f.offer with
    | none => simp [hfound] at hfollows
    | some sel => simp [hfound] at hfollows
  · rw [hsel] at hfollows
    cases hfound : priority.findSome? f.offer with
    | none => simp [hfound] at hfollows
    | some sel' =>
      rw [hfound] at hfollows
      have hsame : sel.source = sel'.source :=
        congrArg BundleState.source (Except.ok.inj hfollows)
      obtain ⟨src', -, hoffer⟩ := List.exists_of_findSome?_eq_some hfound
      have hsrc : src' = src := by
        refine label_injective ?_
        rw [← offer_source hoffer, ← hsame, hlabel]
      rw [hsrc, hnone] at hoffer
      cases hoffer

theorem orElse_found {first second : Except Raised (Option Selection)} {label : String}
    (h : (∃ e, first = .error e) ∨ ∃ sel, first = .ok (some sel) ∧ sel.source = label) :
    (∃ e, orElse first second = .error e) ∨
      ∃ sel, orElse first second = .ok (some sel) ∧ sel.source = label := by
  rcases h with ⟨e, rfl⟩ | ⟨sel, rfl, hsel⟩
  · exact Or.inl ⟨e, rfl⟩
  · exact Or.inr ⟨sel, rfl, hsel⟩

theorem follows_of_reads (h : MarkersRead f) : f.FollowsPriority := by
  refine follows_of_resolve ?_
  have hpriority : priority.findSome? f.offer = (f.offer .explicit).or
      ((f.offer .selectedLibrary).or ((f.offer .selectedBundle).or ((f.offer .bundleAuto).or
        ((f.offer .libraryAuto).or (f.offer .builtin))))) := by
    simp only [priority, findSome?_cons_or, List.findSome?_nil, Option.or_none]
  rw [resolve_eq, hpriority]
  cases hexplicit : f.offer .explicit with
  | some sel => rfl
  | none =>
    rw [libraryMarker_reads (h.library hexplicit)]
    cases hselected : f.offer .selectedLibrary with
    | some sel => rfl
    | none =>
      rw [bundleMarker_reads (h.bundle hexplicit hselected)]
      simp only [orElse_ok]

theorem reads_of_follows (h : f.FollowsPriority) : MarkersRead f := by
  have hresolve := resolve_eq f
  have hlibrary : f.offer .explicit = none → ∀ l ∈ f.library, l.MarkerReads [l] := by
    intro hexplicit l hlib
    rw [hexplicit, libraryMarker_of l hlib] at hresolve
    by_contra hmisreads
    obtain ⟨hnone, hfound⟩ := trySelectedMarker_misreads "selected-library" (some l)
      (fun hpair => hmisreads (markerReads_pair.mp hpair))
    have hoffer : f.offer .selectedLibrary = none := by
      rw [Option.toList_some, markedIn_pair] at hnone
      simp only [Places.offer, Option.mem_def.mp hlib]
      exact hnone
    refine not_follows .selectedLibrary hoffer ?_ h
    rw [hresolve, orElse_none]
    exact orElse_found hfound
  refine ⟨hlibrary, fun hexplicit hselected => ?_⟩
  rw [hexplicit, libraryMarker_reads (hlibrary hexplicit), hselected] at hresolve
  by_contra hmisreads
  obtain ⟨hnone, hfound⟩ := trySelectedMarker_misreads "selected-bundle" f.library hmisreads
  refine not_follows .selectedBundle hnone ?_ h
  rw [hresolve, orElse_none, orElse_none]
  exact orElse_found hfound

end Search

/-- The search selects what is documented exactly when each marker that is reached reads well. -/
theorem followsPriority_iff (f : Places) : f.FollowsPriority ↔ MarkersRead f :=
  ⟨reads_of_follows, follows_of_reads⟩

/-! ### A marker that is not text -/

def slateFile : FallbackDir where
  path := bundlePath
  files := Dict.ofList [(builtinName, ByteArray.empty)]
  named := by
    intro name hname
    obtain rfl : name = builtinName := by simpa [Dict.keys, Dict.ofList, Dict.firsts] using hname
    exact ⟨⟨by decide, by decide, by decide⟩, by decide, by decide +kernel⟩

def markedLibrary (marker : ByteArray) : FallbackDir where
  path := libraryPath
  files := Dict.ofList [(selectedMarker, marker)]
  named := by
    intro name hname
    obtain rfl : name = selectedMarker := by simpa [Dict.keys, Dict.ofList, Dict.firsts] using hname
    exact ⟨⟨by decide, by decide, by decide⟩, by decide, by decide +kernel⟩

def markedPlaces (marker : ByteArray) : Places where
  assetName := ""
  bundle := slateFile
  library := some (markedLibrary marker)
  named := Or.inl rfl
  apart := by
    intro l hl
    obtain rfl := Option.some.inj hl
    intro h
    have hapart : libraryPath ≠ bundlePath := by decide
    exact absurd h hapart

/-- One byte that is not UTF-8 aborts the startup, with the slate in its place. -/
theorem undecodableMarker_raises : ¬ ∀ f : Places, f.FollowsPriority := by
  intro h
  have hfollows := h (markedPlaces (ByteArray.mk #[0xff]))
  have hraised : (BundleState.validate (markedPlaces (ByteArray.mk #[0xff])).sources).isOk =
      false := by decide +kernel
  have hslate : (markedPlaces (ByteArray.mk #[0xff])).documented.isOk = true := by decide +kernel
  rw [hfollows, hslate] at hraised
  cases hraised

end AdaptiveAdvertisement.Player
