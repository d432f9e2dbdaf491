import Mathlib.Data.List.Infix
import Mathlib.Data.List.TakeWhile
import EdgeGateway.Library.JsonValue

/-- A URL in the parts of `urllib.parse.urlsplit`. -/
structure SplitResult where
  scheme : List Char
  netloc : List Char
  path : List Char
  query : List Char
  fragment : List Char

namespace UrlSplit

/-- The characters that end the authority. -/
def delimiter (c : Char) : Bool := c = '/' || c = '?' || c = '#'

/-- The characters that end the path. -/
def path_end (c : Char) : Bool := c = '?' || c = '#'

def scheme_char (c : Char) : Bool := c.isAlphanum || c = '+' || c = '-' || c = '.'

def c0_control_or_space (c : Char) : Bool := c.toNat ≤ 32

def unsafe_to_remove (c : Char) : Bool := c = '\t' || c = '\r' || c = '\n'

def clean (url : List Char) : List Char := url.filter fun c => !unsafe_to_remove c

/-- `url.split(c, 1)`, with an empty second part if there is no `c`. -/
def cut (c : Char) (url : List Char) : List Char × List Char :=
  (url.takeWhile (· ≠ c), (url.dropWhile (· ≠ c)).tail)

/-- The scheme in front of the first colon, if it can be one, and the rest. -/
def splitscheme (url : List Char) : List Char × List Char :=
  match url.takeWhile (· ≠ ':'), url.dropWhile (· ≠ ':') with
  | c :: cs, ':' :: rest =>
    if c.isAlpha && (c :: cs).all scheme_char then ((c :: cs).map Char.toLower, rest) else ([], url)
  | _, _ => ([], url)

def splitnetloc (url : List Char) : List Char × List Char :=
  (url.takeWhile (!delimiter ·), url.dropWhile (!delimiter ·))

/-- Checks a closed list. With `∀`, `decide` would go through every character there is. -/
theorem eq_false_of_all {p : Char → Bool} {l : List Char} (h : (l.all fun c => !p c) = true) : ∀ c ∈ l, p c = false := by
  simpa only [List.all_eq_true, Bool.not_eq_true'] using h

/-- `urlsplit(url)`. It refuses an authority with wrong brackets, or with characters that
normalize to delimiters; `valid_netloc` says which ones it takes. -/
def urlsplit (valid_netloc : List Char → Bool) (url : List Char) : Except PyExc SplitResult :=
  let url := clean (url.dropWhile c0_control_or_space)
  let (scheme, url) := splitscheme url
  let (netloc, url) :=
    match url with
    | '/' :: '/' :: rest => splitnetloc rest
    | _ => ([], url)
  if valid_netloc netloc then
    let (url, fragment) := cut '#' url
    let (path, query) := cut '?' url
    .ok { scheme, netloc, path, query, fragment }
  else .error .ValueError

/-- A text that stands for a scheme in front of a colon. -/
structure IsScheme (scheme : List Char) : Prop where
  alpha : scheme.head?.any Char.isAlpha = true
  chars : ∀ c ∈ scheme, scheme_char c = true

theorem isScheme_http : IsScheme "http".toList where
  alpha := rfl
  chars := List.all_eq_true.mp (by decide)

theorem clean_append (l₁ l₂ : List Char) : clean (l₁ ++ l₂) = clean l₁ ++ clean l₂ := List.filter_append _ _

theorem clean_of_forall {l : List Char} (h : ∀ c ∈ l, unsafe_to_remove c = false) : clean l = l :=
  List.filter_eq_self.mpr fun c hc => by rw [h c hc]; rfl

theorem c0_control_of_isAlpha {c : Char} (h : c.isAlpha = true) : c0_control_or_space c = false := by
  have hletter : (decide (c.val ≥ 'A'.val ∧ c.val ≤ 'Z'.val) || (c.val ≥ 'a'.val && c.val ≤ 'z'.val)) = true := h
  simp only [Bool.or_eq_true, Bool.and_eq_true, decide_eq_true_eq, ge_iff_le, UInt32.le_iff_toNat_le] at hletter
  simp only [c0_control_or_space, decide_eq_false_iff_not]
  have hval : c.toNat = c.val.toNat := rfl
  rw [hval]
  simp at hletter
  omega

theorem cut_cut (url : List Char) : (cut '?' (cut '#' url).1).1 = url.takeWhile (!path_end ·) := by
  simp only [cut, List.takeWhile_takeWhile, path_end]
  congr 1
  funext c
  by_cases hquery : c = '?' <;> by_cases hfragment : c = '#' <;> simp [hquery, hfragment]

theorem splitscheme_of_isScheme {scheme rest : List Char} (h : IsScheme scheme) :
    splitscheme (scheme ++ ':' :: rest) = (scheme.map Char.toLower, rest) := by
  have hne : ∀ c ∈ scheme, decide (c ≠ ':') = true := by
    intro c hc
    refine decide_eq_true ?_
    rintro rfl
    have hchar := h.chars _ hc
    cases hchar
  unfold splitscheme
  rw [List.takeWhile_append_of_pos hne, List.dropWhile_append_of_pos hne, List.takeWhile_cons_of_neg (by simp),
    List.dropWhile_cons_of_neg (by simp), List.append_nil]
  obtain ⟨halpha, hchars⟩ := h
  cases scheme with
  | nil => cases halpha
  | cons c cs =>
    have hall : (c :: cs).all scheme_char = true := List.all_eq_true.mpr hchars
    have hhead : c.isAlpha = true := halpha
    simp only [hhead, hall, Bool.and_self, if_true]

/-- What is in front of a slash does not matter to the split behind it. -/
theorem splitnetloc_append (host rest : List Char) :
    splitnetloc (host ++ '/' :: rest) = ((splitnetloc host).1, (splitnetloc host).2 ++ '/' :: rest) := by
  induction host with
  | nil => rfl
  | cons c cs ih =>
    simp only [splitnetloc, Prod.mk.injEq] at ih ⊢
    cases hdelimiter : delimiter c with
    | true => simp [hdelimiter]
    | false => simp [hdelimiter, ih.1, ih.2]

/-- A URL with a scheme and an authority, split at what `clean` leaves of it. -/
theorem urlsplit_eq {valid_netloc : List Char → Bool} {scheme rest : List Char} (h : IsScheme scheme) :
    urlsplit valid_netloc (scheme ++ ':' :: '/' :: '/' :: rest) =
      if valid_netloc (splitnetloc (clean rest)).1 then
        .ok {
          scheme := scheme.map Char.toLower
          netloc := (splitnetloc (clean rest)).1
          path := (cut '?' (cut '#' (splitnetloc (clean rest)).2).1).1
          query := (cut '?' (cut '#' (splitnetloc (clean rest)).2).1).2
          fragment := (cut '#' (splitnetloc (clean rest)).2).2 }
      else .error .ValueError := by
  have hstart : (scheme ++ ':' :: '/' :: '/' :: rest).dropWhile c0_control_or_space =
      scheme ++ ':' :: '/' :: '/' :: rest := by
    obtain ⟨halpha, _⟩ := h
    cases scheme with
    | nil => cases halpha
    | cons c cs =>
      have hhead : c0_control_or_space c = false := c0_control_of_isAlpha halpha
      rw [List.cons_append, List.dropWhile_cons_of_neg (by simp [hhead])]
  have hclean : clean (scheme ++ ':' :: '/' :: '/' :: rest) = scheme ++ ':' :: '/' :: '/' :: clean rest := by
    rw [clean_append, clean_of_forall]
    · rfl
    · intro c hc
      have hchar := h.chars c hc
      by_contra hunsafe
      simp only [unsafe_to_remove, Bool.not_eq_false, Bool.or_eq_true, decide_eq_true_eq] at hunsafe
      obtain (rfl | rfl) | rfl := hunsafe <;> cases hchar
  simp only [urlsplit, hstart, hclean, splitscheme_of_isScheme h]

/-- The path of a URL with an authority starts at the first delimiter after it. -/
theorem path_urlsplit {valid_netloc : List Char → Bool} {scheme rest : List Char} (h : IsScheme scheme) :
    (urlsplit valid_netloc (scheme ++ ':' :: '/' :: '/' :: rest)).map SplitResult.path =
      if valid_netloc (splitnetloc (clean rest)).1 then .ok ((splitnetloc (clean rest)).2.takeWhile (!path_end ·))
      else .error .ValueError := by
  rw [urlsplit_eq h, ← cut_cut]
  split <;> rfl

/-- The query of what follows the authority. -/
def query_part (text : List Char) : List Char := (cut '?' (cut '#' text).1).2

/-- So does what is split into the path, the query and the fragment. -/
theorem query_urlsplit {valid_netloc : List Char → Bool} {scheme rest : List Char} (h : IsScheme scheme) :
    (urlsplit valid_netloc (scheme ++ ':' :: '/' :: '/' :: rest)).map SplitResult.query =
      if valid_netloc (splitnetloc (clean rest)).1 then .ok (query_part (splitnetloc (clean rest)).2)
      else .error .ValueError := by
  rw [urlsplit_eq h]
  split <;> rfl

/-- What has no delimiter does not matter to the query behind it. -/
theorem query_part_append {before after : List Char} (hbefore : ∀ c ∈ before, path_end c = false) :
    query_part (before ++ after) = query_part after := by
  have hfragment : ∀ c ∈ before, decide (c ≠ '#') = true := by
    intro c hc
    refine decide_eq_true ?_
    rintro rfl
    exact absurd (hbefore _ hc) (by decide)
  have hquery : ∀ c ∈ before, decide (c ≠ '?') = true := by
    intro c hc
    refine decide_eq_true ?_
    rintro rfl
    exact absurd (hbefore _ hc) (by decide)
  simp only [query_part, cut]
  rw [List.takeWhile_append_of_pos hfragment, List.dropWhile_append_of_pos hquery]

theorem query_part_cons (rest : List Char) : query_part ('?' :: rest) = rest.takeWhile (· ≠ '#') := rfl

theorem not_mem_query_part (text : List Char) : '#' ∉ query_part text := by
  intro hmem
  have hmem := List.mem_of_mem_tail hmem
  have hmem := (List.dropWhile_sublist _).subset hmem
  have hne := List.mem_takeWhile_imp hmem
  simp at hne

end UrlSplit
