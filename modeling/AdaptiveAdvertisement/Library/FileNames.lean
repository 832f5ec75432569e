import Mathlib.Data.List.DropRight

/-!
# File names and text files

Pure paths of a POSIX system, the suffix of a file name, and a text that is written to a file and
read back in text mode.
-/

namespace AdaptiveAdvertisement.Library

/-! ### Paths -/

/-- Two leading slashes, and no third, are a root of their own. -/
inductive Root where
  | relative
  | slash
  | twoSlashes
  deriving DecidableEq

structure Path where
  root : Root
  parts : List String
  deriving DecidableEq

/-- The components of a path; an empty one and a single dot are dropped. -/
def components (s : String) : List String :=
  ((s.toList.splitOn '/').map String.ofList).filter fun c => decide (c ≠ "" ∧ c ≠ ".")

def rootOf (s : String) : Root :=
  match s.toList with
  | '/' :: '/' :: '/' :: _ => .slash
  | '/' :: '/' :: _ => .twoSlashes
  | '/' :: _ => .slash
  | _ => .relative

namespace Path

/-- Joining an absolute path replaces the path on the left. -/
def join (p : Path) (s : String) : Path :=
  if rootOf s = .relative then ⟨p.root, p.parts ++ components s⟩
  else ⟨rootOf s, components s⟩

def name (p : Path) : String := p.parts.getLast?.getD ""

def str (p : Path) : String :=
  match p.root with
  | .relative => if p.parts = [] then "." else "/".intercalate p.parts
  | .slash => "/" ++ "/".intercalate p.parts
  | .twoSlashes => "//" ++ "/".intercalate p.parts

end Path

/-! ### Suffixes -/

/-- From the last dot on, unless that is the first or the last character. -/
def suffix (name : String) : String :=
  let fromDot := name.toList.reverse.takeWhile fun c => decide (c ≠ '.')
  if fromDot.length = 0 ∨ name.toList.length ≤ fromDot.length + 1 then ""
  else String.ofList ('.' :: fromDot.reverse)

/-- The lower case of the ASCII letters. The one other character with an ASCII lower case is the
Kelvin sign. -/
def lower (s : String) : String := String.ofList (s.toList.map Char.toLower)

/-! ### Text -/

/-- White space, as `str.strip` removes it. -/
def isSpace (c : Char) : Bool :=
  let n := c.toNat
  decide (9 ≤ n ∧ n ≤ 13 ∨ 28 ≤ n ∧ n ≤ 32 ∨ 0x2000 ≤ n ∧ n ≤ 0x200a) ||
    decide (n ∈ [0x85, 0xa0, 0x1680, 0x2028, 0x2029, 0x202f, 0x205f, 0x3000])

def stripChars (cs : List Char) : List Char := (cs.dropWhile isSpace).rdropWhile isSpace

def strip (s : String) : String := String.ofList (stripChars s.toList)

/-- What reading in text mode makes of the line ends: a carriage return is a new line, with the
line feed after it, if there is one. -/
def newlines : Bool → List Char → List Char
  | _, [] => []
  | afterReturn, c :: cs =>
    if c = '\r' then '\n' :: newlines true cs
    else if afterReturn = true ∧ c = '\n' then newlines false cs
    else c :: newlines false cs

/-- A text after it is written to a file and read. -/
def readBack (s : String) : String := String.ofList (newlines false s.toList)

/-! ### Names of one component -/

/-- One component of a path, other than a dot. -/
def IsName (s : String) : Prop := '/' ∉ s.toList ∧ s ≠ "" ∧ s ≠ "."

theorem components_of_name {s : String} (h : IsName s) : components s = [s] := by
  obtain ⟨hslash, hne, hdot⟩ := h
  have hsplit : s.toList.splitOn '/' = [s.toList] := by
    refine List.splitOnP_eq_singleton fun c hc => ?_
    rw [beq_eq_false_iff_ne]
    exact fun he => hslash (he ▸ hc)
  simp [components, hsplit, hne, hdot]

theorem rootOf_name {s : String} (h : '/' ∉ s.toList) : rootOf s = .relative := by
  unfold rootOf
  cases hs : s.toList with
  | nil => rfl
  | cons c cs =>
    have hc : c ≠ '/' := fun he => h (by rw [hs, he]; exact List.mem_cons_self)
    split <;> simp_all

theorem join_name (p : Path) {s : String} (h : IsName s) :
    p.join s = ⟨p.root, p.parts ++ [s]⟩ := by
  rw [Path.join, if_pos (rootOf_name h.1), components_of_name h]

@[simp] theorem name_join (p : Path) {s : String} (h : IsName s) : (p.join s).name = s := by
  simp [join_name p h, Path.name]

/-! ### Texts that come back as they were written -/

theorem newlines_eq_self {cs : List Char} (h : '\r' ∉ cs) : newlines false cs = cs := by
  induction cs with
  | nil => rfl
  | cons c cs ih =>
    have hc : c ≠ '\r' := fun he => h (he ▸ List.mem_cons_self)
    have hrest := ih fun hmem => h (List.mem_cons_of_mem c hmem)
    simp [newlines, hc, hrest]

theorem return_not_mem_newlines (afterReturn : Bool) (cs : List Char) :
    '\r' ∉ newlines afterReturn cs := by
  induction cs generalizing afterReturn with
  | nil => simp [newlines]
  | cons c cs ih =>
    unfold newlines
    split_ifs with hreturn hfeed
    · simpa using ih true
    · exact ih false
    · simpa [Ne.symm hreturn] using ih false

theorem stripChars_sublist (cs : List Char) : (stripChars cs).Sublist cs :=
  (List.rdropWhile_prefix _ _).sublist.trans (List.dropWhile_sublist _)

theorem stripChars_eq_self_iff (cs : List Char) :
    stripChars cs = cs ↔ cs.dropWhile isSpace = cs ∧ cs.rdropWhile isSpace = cs := by
  refine ⟨fun h => ?_, fun h => ?_⟩
  · have hlen : cs.length ≤ (cs.dropWhile isSpace).length := by
      have hle := (List.rdropWhile_prefix isSpace (cs.dropWhile isSpace)).length_le
      rw [← stripChars, h] at hle
      exact hle
    have hfront := (List.dropWhile_sublist (l := cs) isSpace).eq_of_length_le hlen
    refine ⟨hfront, ?_⟩
    rw [stripChars, hfront] at h
    exact h
  · rw [stripChars, h.1, h.2]

def leadsWithSpace (s : String) : Bool := s.toList.head?.any isSpace

def endsWithSpace (s : String) : Bool := s.toList.getLast?.any isSpace

theorem dropWhile_eq_self_iff_head (p : Char → Bool) (cs : List Char) :
    cs.dropWhile p = cs ↔ cs.head?.any p = false := by
  cases cs with
  | nil => simp
  | cons c cs =>
    cases hc : p c with
    | false => simp [hc]
    | true =>
      have hshort := (List.dropWhile_sublist (l := cs) p).length_le
      refine iff_of_false (fun h => ?_) (by simp [hc])
      have hlen := congrArg List.length h
      simp only [List.dropWhile_cons, hc, if_true, List.length_cons] at hlen
      omega

theorem rdropWhile_eq_self_iff_last (p : Char → Bool) (cs : List Char) :
    cs.rdropWhile p = cs ↔ cs.getLast?.any p = false := by
  rw [List.rdropWhile_eq_self_iff]
  cases hlast : cs.getLast? with
  | none => simp [List.getLast?_eq_none_iff.mp hlast]
  | some c =>
    obtain ⟨hne, rfl⟩ := List.mem_getLast?_eq_getLast hlast
    simp [hne]

/-- A text is read as it was written, and is stripped of nothing, exactly where it has no carriage
return and no white space around it. -/
theorem strip_readBack_iff (s : String) :
    strip (readBack s) = s ↔
      '\r' ∉ s.toList ∧ leadsWithSpace s = false ∧ endsWithSpace s = false := by
  have hchars : strip (readBack s) = s ↔ stripChars (newlines false s.toList) = s.toList := by
    refine ⟨fun h => ?_, fun h => ?_⟩
    · have hlist := congrArg String.toList h
      simpa [strip, readBack] using hlist
    · rw [strip, readBack, String.toList_ofList, h, String.ofList_toList]
  have hself : stripChars s.toList = s.toList ↔
      leadsWithSpace s = false ∧ endsWithSpace s = false := by
    rw [stripChars_eq_self_iff, dropWhile_eq_self_iff_head, rdropWhile_eq_self_iff_last]
    rfl
  rw [hchars, ← hself]
  refine ⟨fun h => ?_, fun ⟨hreturn, h⟩ => ?_⟩
  · have hreturn : '\r' ∉ s.toList := by
      intro hmem
      rw [← h] at hmem
      exact return_not_mem_newlines false _ ((stripChars_sublist _).mem hmem)
    rw [newlines_eq_self hreturn] at h
    exact ⟨hreturn, h⟩
  · rw [newlines_eq_self hreturn, h]

end AdaptiveAdvertisement.Library
