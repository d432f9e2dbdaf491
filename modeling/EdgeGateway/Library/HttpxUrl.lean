import EdgeGateway.Library.UrlSplit

/-- What `httpx.URL` makes of a text, up to percent-encoding. A query that is absent is empty. -/
structure HttpxUrl where
  scheme : List Char
  authority : List Char
  path : List Char
  query : List Char

namespace HttpxUrl

/-- What a component does to the ones in front of it. The root is never removed. -/
def normalize_step (output : List (List Char)) (component : List Char) : List (List Char) :=
  if component = ['.'] then output
  else if component = ['.', '.'] then if output ≠ [] ∧ output ≠ [[]] then output.dropLast else output
  else output ++ [component]

/-- Remove the dot segments of a path. -/
def normalize_path (path : List Char) : List Char :=
  ['/'].intercalate ((path.splitOn '/').foldl normalize_step [])

/-- The query in what follows the path. -/
def query_of : List Char → List Char
  | '?' :: rest => rest.takeWhile (· ≠ '#')
  | _ => []

def urlparse (url : List Char) : HttpxUrl :=
  let (scheme, url) := UrlSplit.splitscheme url
  let (authority, url) :=
    match url with
    | '/' :: '/' :: rest => UrlSplit.splitnetloc rest
    | _ => ([], url)
  { scheme := scheme
    authority := authority
    path := normalize_path (url.takeWhile (!UrlSplit.path_end ·))
    query := query_of (url.dropWhile (!UrlSplit.path_end ·)) }

/-- What is made of a URL whose authority ends at a slash. -/
theorem urlparse_eq {scheme authority rest : List Char} (hscheme : UrlSplit.IsScheme scheme)
    (hauthority : ∀ c ∈ authority, UrlSplit.delimiter c = false) :
    urlparse (scheme ++ ':' :: '/' :: '/' :: (authority ++ '/' :: rest)) =
      { scheme := scheme.map Char.toLower
        authority := authority
        path := normalize_path (('/' :: rest).takeWhile (!UrlSplit.path_end ·))
        query := query_of (('/' :: rest).dropWhile (!UrlSplit.path_end ·)) } := by
  have hpos : ∀ c ∈ authority, (!UrlSplit.delimiter c) = true := fun c hc => by rw [hauthority c hc]; rfl
  have htake : ('/' :: rest).takeWhile (!UrlSplit.delimiter ·) = [] := rfl
  have hdrop : ('/' :: rest).dropWhile (!UrlSplit.delimiter ·) = '/' :: rest := rfl
  have hsplit : UrlSplit.splitnetloc (authority ++ '/' :: rest) = (authority, '/' :: rest) := by
    rw [UrlSplit.splitnetloc, List.takeWhile_append_of_pos hpos, List.dropWhile_append_of_pos hpos,
      htake, hdrop, List.append_nil]
  simp only [urlparse, UrlSplit.splitscheme_of_isScheme hscheme, hsplit]

/-- How many of the components in front of them the components remove, and what is left of
them themselves. -/
def resolve : List (List Char) → ℕ × List (List Char)
  | [] => (0, [])
  | component :: rest =>
    let (climb, left) := resolve rest
    if component = ['.'] then (climb, left)
    else if component = ['.', '.'] then (climb + 1, left)
    else if climb = 0 then (0, component :: left)
    else (climb - 1, left)

/-- The left-to-right removal of dot segments, by what they resolve to from the right. -/
theorem foldl_normalize_step (components base : List (List Char)) :
    components.foldl normalize_step ([] :: base) =
      [] :: (base.take (base.length - (resolve components).1) ++ (resolve components).2) := by
  induction components generalizing base with
  | nil => simp [resolve]
  | cons component rest ih =>
    rw [List.foldl_cons, resolve]
    rcases hresolve : resolve rest with ⟨climb, left⟩
    simp only [hresolve] at ih ⊢
    by_cases hdot : component = ['.']
    · simp only [normalize_step, if_pos hdot]
      exact ih base
    · by_cases hdots : component = ['.', '.']
      · simp only [normalize_step, if_neg hdot, if_pos hdots]
        cases base with
        | nil => simpa using ih []
        | cons b bs =>
          have hpop : ([] :: b :: bs : List (List Char)).dropLast = [] :: (b :: bs).dropLast := rfl
          rw [if_pos ⟨List.cons_ne_nil _ _, by simp⟩, hpop, ih, List.length_dropLast, List.dropLast_eq_take, List.take_take]
          congr 3
          rw [List.length_cons]
          omega
      · simp only [normalize_step, if_neg hdot, if_neg hdots]
        rw [List.cons_append, ih, List.length_append, List.length_singleton]
        by_cases hclimb : climb = 0
        · simp only [if_pos hclimb]
          rw [hclimb, List.take_of_length_le (by simp), Nat.sub_zero, List.take_length, List.append_assoc]
          rfl
        · simp only [if_neg hclimb]
          rw [List.take_append_of_le_length (by omega)]
          congr 3
          omega

theorem not_mem_of_mem_splitOn {α : Type} [BEq α] [LawfulBEq α] {a : α} {l xs : List α} (h : l ∈ xs.splitOn a) : a ∉ l := by
  induction xs generalizing l with
  | nil =>
    rw [List.splitOn_nil, List.mem_singleton] at h
    rw [h]
    exact List.not_mem_nil
  | cons x xs ih =>
    rw [List.splitOn_cons_eq_if_modifyHead] at h
    split at h
    · obtain rfl | h := List.mem_cons.mp h
      · exact List.not_mem_nil
      · exact ih h
    · rename_i hne
      cases hsplit : xs.splitOn a with
      | nil => exact absurd hsplit (List.splitOn_ne_nil a xs)
      | cons first rest =>
        rw [hsplit] at h ih
        obtain rfl | h := List.mem_cons.mp h
        · rw [List.mem_cons, not_or]
          exact ⟨fun heq => hne (heq ▸ beq_self_eq_true x), ih List.mem_cons_self⟩
        · exact ih (List.mem_cons_of_mem _ h)

/-- The path of a directory by its components. -/
def directory (base : List (List Char)) : List Char := '/' :: base.flatMap (· ++ ['/'])

section Directory

variable {base components : List (List Char)} {rest : List Char}

theorem splitOn_directory_append (hbase : ∀ l ∈ base, '/' ∉ l) :
    (directory base ++ rest).splitOn '/' = [] :: (base ++ rest.splitOn '/') := by
  have hroot : (directory base ++ rest).splitOn '/' = [] :: (base.flatMap (· ++ ['/']) ++ rest).splitOn '/' :=
    List.splitOn_append_cons_self [] _
  rw [hroot]
  congr 1
  induction base with
  | nil => rfl
  | cons b bs ih =>
    obtain ⟨hb, hbs⟩ := List.forall_mem_cons.mp hbase
    rw [List.flatMap_cons, List.append_assoc, List.append_assoc, List.singleton_append, List.splitOn_append_cons_self,
      List.splitOn_eq_singleton hb, ih hbs (List.splitOn_append_cons_self [] _)]
    rfl

/-- A path starts with a directory if its components do, and there are more of them. -/
theorem directory_prefix_iff (hbase : ∀ l ∈ base, '/' ∉ l) (hcomponents : ∀ l ∈ components, '/' ∉ l) :
    directory base <+: ['/'].intercalate ([] :: components) ↔ ∃ tail, tail ≠ [] ∧ components = base ++ tail := by
  have hsplit : (['/'].intercalate ([] :: components)).splitOn '/' = [] :: components :=
    List.splitOn_intercalate '/' (List.forall_mem_cons.mpr ⟨List.not_mem_nil, hcomponents⟩) (List.cons_ne_nil _ _)
  constructor
  · rintro ⟨rest, hrest⟩
    rw [← hrest, splitOn_directory_append hbase, List.cons.injEq] at hsplit
    exact ⟨rest.splitOn '/', List.splitOn_ne_nil _ _, hsplit.2.symm⟩
  · rintro ⟨tail, hne, rfl⟩
    have htail : (['/'].intercalate tail).splitOn '/' = tail :=
      List.splitOn_intercalate '/' (fun l hl => hcomponents l (List.mem_append_right _ hl)) hne
    refine ⟨['/'].intercalate tail, ?_⟩
    have hsame : (directory base ++ ['/'].intercalate tail).splitOn '/' = [] :: (base ++ tail) := by
      rw [splitOn_directory_append hbase, htail]
    rw [← hsame, List.intercalate_splitOn]

/-- Components without dot segments are kept as they are. -/
theorem foldl_normalize_step_of_forall (hbase : ∀ l ∈ base, l ≠ ['.'] ∧ l ≠ ['.', '.']) (output : List (List Char)) :
    base.foldl normalize_step output = output ++ base := by
  induction base generalizing output with
  | nil => simp
  | cons b bs ih =>
    obtain ⟨⟨hdot, hdots⟩, hbs⟩ := List.forall_mem_cons.mp hbase
    rw [List.foldl_cons, normalize_step, if_neg hdot, if_neg hdots, ih hbs, List.append_assoc, List.singleton_append]

theorem not_mem_resolve {l : List Char} (hcomponents : ∀ l ∈ components, '/' ∉ l) (h : l ∈ (resolve components).2) :
    '/' ∉ l := by
  induction components with
  | nil => cases h
  | cons component rest ih =>
    obtain ⟨hcomponent, hrest⟩ := List.forall_mem_cons.mp hcomponents
    rw [resolve] at h
    rcases hresolve : resolve rest with ⟨climb, left⟩
    simp only [hresolve] at h ih
    split at h
    · exact ih hrest h
    · split at h
      · exact ih hrest h
      · split at h
        · obtain rfl | h := List.mem_cons.mp h
          · exact hcomponent
          · exact ih hrest h
        · exact ih hrest h

/-- A path under a directory is still under it after the removal of dot segments, if what is
left of it starts with the components that it removes, and goes on after them. -/
theorem directory_prefix_normalize_path_iff (hbase : ∀ l ∈ base, '/' ∉ l)
    (hplain : ∀ l ∈ base, l ≠ ['.'] ∧ l ≠ ['.', '.']) :
    directory base <+: normalize_path (directory base ++ rest) ↔
      ∃ tail, tail ≠ [] ∧
        (resolve (rest.splitOn '/')).2 = base.drop (base.length - (resolve (rest.splitOn '/')).1) ++ tail := by
  have hroot : normalize_step [] [] = [[]] := rfl
  have hcomponents : ∀ l ∈ base.take (base.length - (resolve (rest.splitOn '/')).1) ++ (resolve (rest.splitOn '/')).2,
      '/' ∉ l := by
    intro l hl
    obtain hl | hl := List.mem_append.mp hl
    · exact hbase l (List.mem_of_mem_take hl)
    · exact not_mem_resolve (fun l hl => not_mem_of_mem_splitOn hl) hl
  rw [normalize_path, splitOn_directory_append hbase, List.foldl_cons, hroot, List.foldl_append,
    foldl_normalize_step_of_forall hplain, List.singleton_append, foldl_normalize_step,
    directory_prefix_iff hbase hcomponents]
  refine exists_congr fun tail => and_congr_right fun _ => ?_
  constructor
  · intro h
    have hsame : base.take (base.length - (resolve (rest.splitOn '/')).1) ++ (resolve (rest.splitOn '/')).2 =
        base.take (base.length - (resolve (rest.splitOn '/')).1) ++
          (base.drop (base.length - (resolve (rest.splitOn '/')).1) ++ tail) := by
      rw [h, ← List.append_assoc, List.take_append_drop]
    exact List.append_cancel_left hsame
  · intro h
    rw [h, ← List.append_assoc, List.take_append_drop]

end Directory

end HttpxUrl
