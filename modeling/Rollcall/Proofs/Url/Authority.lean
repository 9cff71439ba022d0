import Rollcall.Proofs.Url.Reference

/-!
# Authorities

What a text says before its path is read without a look at what comes after it. So the paths below
one address are all read, and lead to one place, as soon as the address alone is read.
-/

namespace Rollcall.Url

def authorityOf (k : SchemeKind) (cs : List Char) : List Char :=
  cs.takeWhile fun c => !isAuthorityEnd k c

def afterAuthority (k : SchemeKind) (cs : List Char) : List Char :=
  cs.dropWhile fun c => !isAuthorityEnd k c

/-- The user, the password, and the host and port of an authority; `isLast` tells that nothing
comes after it. -/
def readSides (authority : List Char) (isLast : Bool) :
    Except UrlFault (String × String × List Char) :=
  match splitAtLast '@' authority with
  | none => .ok ("", "", authority)
  | some (info, after) =>
    if info = [] ∧ after = [] ∧ isLast = false then .error .emptyHost
    else .ok ((readUserinfo info).1, (readUserinfo info).2, after)

/-- Whether a host may be missing: not on the web, nor where anything stands beside it. -/
def lacksHost (scheme username password : String) (host port : List Char) : Prop :=
  host = [] ∧ (schemeKind scheme = .web ∨ port ≠ [] ∨ username ≠ "" ∨ password ≠ "")

instance (scheme username password : String) (host port : List Char) :
    Decidable (lacksHost scheme username password host port) :=
  inferInstanceAs (Decidable (_ ∧ _))

/-- Where a text leads: a URL without a path. -/
def readOrigin (scheme : String) (authority : List Char) (isLast : Bool) : Except UrlFault Url :=
  (readSides authority isLast).bind fun (username, password, hostAndPort) =>
    let (hostText, portText) := hostPart false hostAndPort
    if lacksHost scheme username password hostText portText then .error .emptyHost
    else
      (if schemeKind scheme = .web then readHost hostText else readOpaqueHost hostText).bind
        fun host => (readPort scheme portText).map fun port =>
          { scheme, username, password, host := some host, port, path := .segments [] }

def extend (o : Url) (rest : List Char) : Url :=
  let p := readPathStart o.kind rest
  let t := readTail o.kind p.2
  { o with path := p.1, query := t.1, fragment := t.2 }

theorem readAuthority_eq (scheme : String) (cs : List Char) :
    readAuthority scheme cs =
      (readOrigin scheme (authorityOf (schemeKind scheme) cs)
        (afterAuthority (schemeKind scheme) cs).isEmpty).map
        fun o => o.extend (afterAuthority (schemeKind scheme) cs) := by
  have hempty : ∀ rest : List Char, rest.isEmpty = false ↔ rest ≠ [] := fun rest => by
    rw [← Bool.not_eq_true, List.isEmpty_iff]
  unfold readAuthority readOrigin readSides authorityOf afterAuthority
  simp only [bind, throw, throwThe, MonadExceptOf.throw, pure, Except.pure, hempty]
  generalize List.takeWhile (fun c => !isAuthorityEnd (schemeKind scheme) c) cs = authority
  generalize List.dropWhile (fun c => !isAuthorityEnd (schemeKind scheme) c) cs = rest
  cases splitAtLast '@' authority
  case' some p => by_cases hnone : p.1 = [] ∧ p.2 = [] ∧ rest ≠ []
  case pos =>
    simp only [if_pos hnone]
    rfl
  case' neg => simp only [if_neg hnone]
  -- from here on it makes no difference whether there was a user
  all_goals
    simp only [Except.bind, lacksHost]
    split_ifs
    · rfl
    · rcases readHost _ with e | host
      · rfl
      · rcases readPort _ _ with e | port <;> rfl
    · rcases readOpaqueHost _ with e | host
      · rfl
      · rcases readPort _ _ with e | port <;> rfl

theorem scheme_of_readOrigin {scheme : String} {authority : List Char} {isLast : Bool} {o : Url}
    (h : readOrigin scheme authority isLast = .ok o) : o.scheme = scheme := by
  unfold readOrigin at h
  cases hsides : readSides authority isLast with
  | error e => rw [hsides] at h; cases h
  | ok t =>
    rw [hsides] at h
    simp only [Except.bind] at h
    split_ifs at h
    all_goals
      split at h
      · cases h
      · rcases hport : readPort scheme _ with e | port
        · rw [hport] at h; cases h
        · rw [hport] at h; cases h; rfl

theorem hasSegments_readPathStart (k : SchemeKind) (cs : List Char) :
    ∃ l, (readPathStart k cs).1 = .segments l := by
  unfold readPathStart readPath
  split
  · exact ⟨_, rfl⟩
  · split_ifs <;> exact ⟨_, rfl⟩

theorem of_readAuthority {scheme : String} {cs : List Char} {u : Url}
    (h : readAuthority scheme cs = .ok u) : u.scheme = scheme ∧ ∃ l, u.path = .segments l := by
  rw [readAuthority_eq] at h
  rcases ho : readOrigin scheme _ _ with e | o
  · rw [ho] at h; cases h
  · rw [ho] at h
    cases h
    have hscheme : o.scheme = scheme := scheme_of_readOrigin ho
    exact ⟨hscheme, hasSegments_readPathStart _ _⟩

theorem scheme_of_readFile {cs : List Char} {u : Url} (h : readFile cs = .ok u) :
    u.scheme = "file" := by
  unfold readFile readFile.finish at h
  split at h
  · split at h
    · dsimp only at h
      split at h
      · cases h; rfl
      · split at h
        · cases h; rfl
        · rcases hhost : readHost _ with e | host
          · rw [hhost] at h; cases h
          · rw [hhost] at h; cases h; rfl
    · cases h; rfl
  · cases h; rfl

theorem scheme_of_readOther {scheme : String} {cs : List Char} {u : Url}
    (h : readOther scheme cs = .ok u) : u.scheme = scheme := by
  unfold readOther at h
  split at h
  · exact (of_readAuthority h).1
  · cases h; rfl
  · cases h; rfl

theorem hasSegments_of_read {s : String} {u : Url} (h : read s = .ok u) (hk : u.kind = .web) :
    ∃ l, u.path = .segments l := by
  unfold read readCleaned at h
  split at h
  · next scheme rest hscheme =>
    unfold kind at hk
    split at h
    · exact (of_readAuthority h).2
    · rw [scheme_of_readFile h] at hk
      exact absurd hk (by decide)
    · next hkind =>
      rw [scheme_of_readOther h, hkind] at hk
      cases hk
  · cases h

/-- Where a URL leads: everything but its path, its query and its fragment. -/
def origin (u : Url) : Url := { u with path := .segments [], query := none, fragment := none }

theorem server_of_origin {u u' : Url} (h : u'.origin = u.origin) :
    u'.scheme = u.scheme ∧ u'.host = u.host ∧ u'.port = u.port := by
  have hscheme : u'.origin.scheme = u.origin.scheme := congrArg Url.scheme h
  have hhost : u'.origin.host = u.origin.host := congrArg Url.host h
  have hport : u'.origin.port = u.origin.port := congrArg Url.port h
  exact ⟨hscheme, hhost, hport⟩

theorem takeWhile_append_of_neg {p : Char → Bool} {c : Char} (hc : p c = false)
    (front rest : List Char) : (front ++ c :: rest).takeWhile p = front.takeWhile p := by
  induction front with
  | nil => exact List.takeWhile_cons_of_neg (Bool.eq_false_iff.mp hc)
  | cons d front ih =>
    rw [List.cons_append, List.takeWhile_cons, List.takeWhile_cons, ih]

theorem dropWhile_append_of_neg {p : Char → Bool} {c : Char} (hc : p c = false)
    (front rest : List Char) : (front ++ c :: rest).dropWhile p ≠ [] := by
  intro h
  have hall := List.dropWhile_eq_nil_iff.mp h c
    (List.mem_append_right _ List.mem_cons_self)
  rw [hc] at hall
  cases hall

/-- What comes after the slash after an authority does not matter to where it leads. -/
theorem origin_readAuthority {scheme : String} {front : List Char} {u : Url}
    (h : readAuthority scheme (front ++ ['/']) = .ok u) (rest : List Char) :
    ∃ u', readAuthority scheme (front ++ '/' :: rest) = .ok u' ∧ u'.origin = u.origin := by
  have hend : (!isAuthorityEnd (schemeKind scheme) '/') = false := by
    simp [isAuthorityEnd, isSlash]
  have hauthority : ∀ rest, authorityOf (schemeKind scheme) (front ++ '/' :: rest) =
      authorityOf (schemeKind scheme) front := takeWhile_append_of_neg hend front
  have hafter : ∀ rest, (afterAuthority (schemeKind scheme) (front ++ '/' :: rest)).isEmpty =
      false := fun rest =>
    Bool.eq_false_iff.mpr fun hnil =>
      dropWhile_append_of_neg hend front rest (List.isEmpty_iff.mp hnil)
  rw [readAuthority_eq, hauthority, hafter] at h ⊢
  cases ho : readOrigin scheme (authorityOf (schemeKind scheme) front) false with
  | error e => rw [ho] at h; cases h
  | ok o =>
    rw [ho] at h
    cases h
    exact ⟨_, rfl, rfl⟩

theorem readScheme_web {scheme : String} (hs : scheme = "http" ∨ scheme = "https")
    (cs : List Char) : readScheme (scheme.toList ++ ':' :: cs) = some (scheme, cs) := by
  rcases hs with rfl | rfl
  · rfl
  · rfl

theorem readAuthority_nil {scheme : String} (hs : scheme = "http" ∨ scheme = "https") :
    readAuthority scheme [] = .error .emptyHost := by
  rcases hs with rfl | rfl
  · rfl
  · rfl

theorem clean_below {scheme : String} (hs : scheme = "http" ∨ scheme = "https")
    (address path : String) : ∃ rest, (path = "" → rest = []) ∧
      clean (scheme ++ "://" ++ address ++ "/" ++ path) =
        scheme.toList ++ ':' :: '/' :: '/' :: (address.toList.filter isKept ++ '/' :: rest) := by
  have hfront : (scheme ++ "://" ++ address ++ "/").toList =
      scheme.toList ++ ':' :: '/' :: '/' :: (address.toList ++ ['/']) := by
    simp
  have hhead : (scheme ++ "://" ++ address ++ "/").toList.head?.any isSpaceOrControl = false := by
    rw [hfront]
    rcases hs with rfl | rfl
    · rfl
    · rfl
  have hlast : (scheme ++ "://" ++ address ++ "/").toList.getLast?.any isSpaceOrControl = false := by
    rw [String.toList_append, List.getLast?_append]
    rfl
  have hscheme : scheme.toList.filter isKept = scheme.toList := by
    rcases hs with rfl | rfl
    · rfl
    · rfl
  refine ⟨(path.toList.rdropWhile isSpaceOrControl).filter isKept, ?_, ?_⟩
  · rintro rfl
    rfl
  · rw [← String.ofList_toList (s := _ ++ path), String.toList_append,
      clean_append (by rw [hfront]; simp) hhead hlast, hfront]
    simp [hscheme, isKept]

/-- All paths below an address that can be read lead to one place. -/
theorem read_below {scheme address : String} (hs : scheme = "http" ∨ scheme = "https") {u : Url}
    (h : read (scheme ++ "://" ++ address ++ "/") = .ok u) (path : String) :
    ∃ u', read (scheme ++ "://" ++ address ++ "/" ++ path) = .ok u' ∧ u'.origin = u.origin := by
  have hkind : schemeKind scheme = .web := by
    rcases hs with rfl | rfl
    · rfl
    · rfl
  have hread : ∀ cs, readCleaned none (scheme.toList ++ ':' :: '/' :: '/' :: cs) =
      readAuthority scheme (cs.dropWhile (isSlash .web)) := by
    intro cs
    unfold readCleaned
    rw [readScheme_web hs]
    simp only [hkind]
    rfl
  obtain ⟨rest, hnil, hclean⟩ := clean_below hs address ""
  obtain ⟨rest', -, hclean'⟩ := clean_below hs address path
  rw [hnil rfl, String.append_empty] at hclean
  unfold read at h ⊢
  rw [hclean, hread, List.dropWhile_append] at h
  rw [hclean', hread, List.dropWhile_append]
  split_ifs at h ⊢
  · rw [List.dropWhile_cons_of_pos (by decide), List.dropWhile_nil, readAuthority_nil hs] at h
    cases h
  · exact origin_readAuthority h rest'

end Rollcall.Url
