import SchemaMigration.Proofs.Text.Integer
import SchemaMigration.Proofs.Text.Percent
import SchemaMigration.Url.Basic

/-!
# The components of a URL

A URL that names a user, a password, a host, a port, one segment and a query is split into just
these, whatever they are: "each separator is found where it was put".  It is enough that none of the
components before the query holds a character that a user name has in percent form only; among these
are all separators, the blanks and everything outside ASCII.
-/

namespace SchemaMigration.Url

/-! ## Texts that stand for themselves -/

/-- A text that is kept as it is in every component: none of its characters separates anything, and
none would be written in percent form. -/
def Unreserved (cs : List Char) : Prop := ∀ c ∈ cs, isUserSpecial c = false

/-- The separators of a URL are reserved. -/
theorem Unreserved.not_mem {cs : List Char} {c : Char} (h : Unreserved cs)
    (hc : isUserSpecial c = true) : c ∉ cs := by
  intro hmem
  rw [h c hmem] at hc
  contradiction

section Characters

variable {c : Char}

theorem isPathSpecial_eq_false (h : isUserSpecial c = false) : isPathSpecial c = false := by
  rw [isUserSpecial, Bool.or_eq_false_iff] at h
  exact h.1

theorem isControl_eq_false (h : isUserSpecial c = false) : isControl c = false := by
  have hpath := isPathSpecial_eq_false h
  rw [isPathSpecial, Bool.or_eq_false_iff] at hpath
  exact hpath.1

/-- What holds of each character of ASCII that is not reserved. -/
theorem of_unreserved {p : Char → Prop}
    (hall : ∀ n < 0x80, isUserSpecial (Char.ofNat n) = false → p (Char.ofNat n))
    (h : isUserSpecial c = false) : p c := by
  have hascii : c.toNat < 0x80 := by
    have hcontrol := isControl_eq_false h
    rw [isControl, Bool.or_eq_false_iff, decide_eq_false_iff_not,
      decide_eq_false_iff_not] at hcontrol
    omega
  exact Text.forall_ascii (p := fun c => isUserSpecial c = false → p c) hall hascii h

theorem isForbiddenInHost_eq_false (h : isUserSpecial c = false) : isForbiddenInHost c = false :=
  of_unreserved (p := fun c => isForbiddenInHost c = false) (by decide) h

theorem isSpaceOrControl_eq_false (h : isUserSpecial c = false) : isSpaceOrControl c = false :=
  of_unreserved (p := fun c => isSpaceOrControl c = false) (by decide) h

end Characters

theorem toNat_of_isLower {c : Char} (h : c.isLower = true) : 97 ≤ c.toNat ∧ c.toNat ≤ 122 := by
  have hbounds : (decide ('a'.val ≤ c.val) && decide (c.val ≤ 'z'.val)) = true := h
  rw [Bool.and_eq_true, decide_eq_true_eq, decide_eq_true_eq] at hbounds
  exact hbounds

/-- What holds of each letter in lower case. -/
theorem of_isLower {p : Char → Prop}
    (hall : ∀ n < 0x80, (Char.ofNat n).isLower = true → p (Char.ofNat n)) {c : Char}
    (hc : c.isLower = true) : p c := by
  have hascii : c.toNat < 0x80 := Nat.lt_of_le_of_lt (toNat_of_isLower hc).2 (by omega)
  exact Text.forall_ascii (p := fun c => c.isLower = true → p c) hall hascii hc

theorem unreserved_of_isLower {c : Char} (hc : c.isLower = true) : isUserSpecial c = false :=
  of_isLower (p := fun c => isUserSpecial c = false) (by decide) hc

/-- Percent forms stand for themselves. -/
theorem unreserved_of_percentForm {form : List Char} {bytes : List UInt8}
    (h : Text.PercentForm form bytes) : Unreserved form := by
  have hdigits : ∀ k < 0x80, (Text.hexDigit? (Char.ofNat k)).isSome = true →
      isUserSpecial (Char.ofNat k) = false := by decide
  intro c hc
  rcases h.eq_or_hexDigit? hc with rfl | ⟨n, hn⟩
  · decide
  · exact Text.forall_ascii
      (p := fun c => (Text.hexDigit? c).isSome = true → isUserSpecial c = false) hdigits
      (Text.lt_of_hexDigit? hn) (by rw [hn]; rfl)

/-- Numbers in decimal stand for themselves. -/
theorem unreserved_toDigits (n : Nat) : Unreserved (Nat.toDigits 10 n) := by
  have hdigits : ∀ k < 0x80,
      (Char.ofNat k).isDigit = true → isUserSpecial (Char.ofNat k) = false := by decide
  intro c hc
  have hdigit := Text.isDigit_of_mem_toDigits hc
  have hrange := Char.isDigit_iff_toNat.1 hdigit
  have hascii : c.toNat < 0x80 := Nat.lt_of_le_of_lt hrange.2 (by decide)
  exact Text.forall_ascii (p := fun c => c.isDigit = true → isUserSpecial c = false) hdigits hascii
    hdigit

/-! ## Cutting at separators -/

section Separators

variable {separator : Char} {cs before after : List Char}

/-- Nothing around or inside a text is ignored that has neither blanks nor control characters. -/
theorem significant_ofList (h : ∀ c ∈ cs, isSpaceOrControl c = false) :
    significant (String.ofList cs) = cs := by
  have hkept : ∀ ds : List Char, (∀ c ∈ ds, c ∈ cs) → ds.dropWhile isSpaceOrControl = ds := by
    intro ds hds
    cases ds with
    | nil => rfl
    | cons c ds =>
      have hc := h c (hds c List.mem_cons_self)
      rw [List.dropWhile_cons_of_neg (by rw [hc]; exact Bool.false_ne_true)]
  have hfilter : cs.filter (fun c => decide (c ≠ '\t' ∧ c ≠ '\n' ∧ c ≠ '\r')) = cs := by
    refine List.filter_eq_self.2 fun c hc => decide_eq_true ⟨?_, ?_, ?_⟩ <;> rintro rfl <;>
      exact absurd (h _ hc) (by decide)
  rw [significant, String.toList_ofList, hkept cs fun _ hc => hc,
    hkept cs.reverse fun c hc => List.mem_reverse.1 hc, List.reverse_reverse, hfilter]

theorem takeWhile_stop {p : Char → Bool} (hall : ∀ c ∈ before, p c = true)
    (hstop : p separator = false) : (before ++ separator :: after).takeWhile p = before := by
  rw [List.takeWhile_append_of_pos hall, List.takeWhile_cons_of_neg (by simp [hstop]),
    List.append_nil]

theorem dropWhile_stop {p : Char → Bool} (hall : ∀ c ∈ before, p c = true)
    (hstop : p separator = false) :
    (before ++ separator :: after).dropWhile p = separator :: after := by
  rw [List.dropWhile_append_of_pos hall, List.dropWhile_cons_of_neg (by simp [hstop])]

/-- The port starts at the first colon, when no bracket stands before it. -/
theorem splitAtPort_append (hcolon : ':' ∉ before) (hopen : '[' ∉ before) :
    splitAtPort false (before ++ ':' :: after) = (before, ':' :: after) := by
  induction before with
  | nil => rfl
  | cons c cs ih =>
    rw [List.mem_cons, not_or] at hcolon hopen
    -- A closing bracket changes nothing outside brackets.
    have hinside : (if c = '[' then true else if c = ']' then false else false) = false := by
      rw [if_neg (Ne.symm hopen.1), ite_self]
    rw [List.cons_append, splitAtPort, if_neg (by simp [Ne.symm hcolon.1])]
    dsimp only
    rw [hinside, ih hcolon.2 hopen.2]

end Separators

/-! ## Reading the components -/

section Components

variable {scheme : String} {user password host segment : List Char} {port : Nat}

theorem credentials_append (huser : Unreserved user) (hpassword : Unreserved password)
    (hne : password ≠ []) : credentials (user ++ ':' :: password) = (user, some password) := by
  have hencoded : (some password).filter (· ≠ []) = some password := by simp [hne]
  rw [credentials, Text.splitAtFirst_append (huser.not_mem rfl)]
  dsimp only
  rw [hencoded, Option.map_some, Text.percentEncode_of_plain huser,
    Text.percentEncode_of_plain hpassword]

theorem opaqueHost_of_unreserved (h : Unreserved host) :
    opaqueHost host = .ok (String.ofList host) := by
  have hbracket : bracketed? host = none := by
    cases host with
    | nil => rfl
    | cons c cs =>
      rw [bracketed?]
      rintro rest ⟨⟩
      exact h.not_mem rfl List.mem_cons_self
  have hforbidden : host.any isForbiddenInHost = false :=
    List.any_eq_false.2 fun c hc => by
      rw [isForbiddenInHost_eq_false (h c hc)]; exact Bool.false_ne_true
  rw [opaqueHost, hbracket]
  dsimp only
  rw [hforbidden, if_neg Bool.false_ne_true,
    Text.percentEncode_of_plain fun c hc => isControl_eq_false (h c hc)]

theorem readPort_toDigits (h : port ≤ 65535) :
    readPort (Nat.toDigits 10 port) = .ok (some port, []) := by
  have hall : ∀ c ∈ Nat.toDigits 10 port, c.isDigit = true := fun c hc =>
    Text.isDigit_of_mem_toDigits hc
  have hdigits : (Nat.toDigits 10 port).takeWhile Char.isDigit = Nat.toDigits 10 port := by
    rw [← List.append_nil (Nat.toDigits 10 port), List.takeWhile_append_of_pos hall,
      List.takeWhile_nil]
  have hrest : (Nat.toDigits 10 port).dropWhile Char.isDigit = [] := by
    rw [← List.append_nil (Nat.toDigits 10 port), List.dropWhile_append_of_pos hall,
      List.dropWhile_nil]
  rw [readPort, hdigits, hrest, if_neg (by simp), if_neg Nat.toDigits_ne_nil,
    Text.readNat?_toDigits]
  exact if_pos h

theorem impliedPort?_of_not_web (h : isWebScheme scheme = false) : impliedPort? scheme = none := by
  rw [impliedPort?] <;> rintro rfl <;> contradiction

theorem hierarchicalPath_singleton (h : Unreserved segment) (hdot : isSingleDot segment = false)
    (hdots : isDoubleDot segment = false) : hierarchicalPath [segment] = '/' :: segment := by
  rw [hierarchicalPath, List.map_singleton,
    Text.percentEncode_of_plain fun c hc => isPathSpecial_eq_false (h c hc), walkSegments, hdot,
    hdots]
  simp

/-- The scheme in lower case ends at the first colon. -/
theorem splitScheme?_append {name rest : List Char} (hne : name ≠ [])
    (hname : ∀ c ∈ name, c.isLower = true) :
    splitScheme? (name ++ ':' :: rest) = some (String.ofList name, rest) := by
  have hchars : ∀ c ∈ name, (c.isAlphanum || c = '+' || c = '-' || c = '.') = true := fun c hc =>
    of_isLower (p := fun c => (c.isAlphanum || c = '+' || c = '-' || c = '.') = true) (by decide)
      (hname c hc)
  have hlower : name.map Char.toLower = name := by
    refine (List.map_congr_left fun c hc => ?_).trans (List.map_id name)
    exact of_isLower (p := fun c => c.toLower = c) (by decide) (hname c hc)
  have hfront : (name ++ ':' :: rest).takeWhile
      (fun c => c.isAlphanum || c = '+' || c = '-' || c = '.') = name :=
    takeWhile_stop hchars rfl
  have hback : (name ++ ':' :: rest).dropWhile
      (fun c => c.isAlphanum || c = '+' || c = '-' || c = '.') = ':' :: rest :=
    dropWhile_stop hchars rfl
  cases name with
  | nil => contradiction
  | cons first name =>
    have hfirst : first.isAlpha = true :=
      of_isLower (p := fun c => c.isAlpha = true) (by decide) (hname first List.mem_cons_self)
    rw [List.cons_append] at hfront hback ⊢
    simp only [splitScheme?, hfirst, if_true, hback, hfront, hlower]

end Components

/-! ## Percent forms as segments -/

section Dots

variable {form tail : List Char} {bytes : List UInt8}

theorem plainDots_eq_nil_iff {segment : List Char} : plainDots segment = [] ↔ segment = [] := by
  rw [plainDots.eq_def]
  split <;> simp

/-- A percent form starts with a dot only where its first byte is one. -/
theorem exists_of_plainDots (h : Text.PercentForm form bytes)
    (hdot : plainDots form = '.' :: tail) :
    ∃ form' bytes', bytes = 0x2E :: bytes' ∧ Text.PercentForm form' bytes' ∧
      plainDots form' = tail := by
  cases h with
  | nil => contradiction
  | @cons high low form b bytes hhigh hlow rest =>
    have hbyte (hlow' : Text.hexDigit? low = some 14) (hhigh' : Text.hexDigit? high = some 2) :
        b = 0x2E := by
      rw [hhigh, Option.some.injEq] at hhigh'
      rw [hlow, Option.some.injEq] at hlow'
      refine UInt8.toNat_inj.1 ?_
      show b.toNat = 46
      omega
    rw [plainDots.eq_def] at hdot
    split at hdot
    · next cs heq =>
      cases heq
      cases hdot
      exact ⟨form, bytes, by rw [hbyte rfl rfl], rest, rfl⟩
    · next cs heq =>
      cases heq
      cases hdot
      exact ⟨form, bytes, by rw [hbyte rfl rfl], rest, rfl⟩
    · next c cs _ _ heq =>
      cases heq
      cases hdot
    · contradiction

/-- The form of anything but one dot is a segment of its own. -/
theorem isSingleDot_of_percentForm (h : Text.PercentForm form bytes) (hne : bytes ≠ [0x2E]) :
    isSingleDot form = false := by
  refine decide_eq_false fun hdot => hne ?_
  obtain ⟨form', bytes', hbytes, hform', hnil⟩ := exists_of_plainDots h hdot
  rw [hbytes, hform'.eq_nil_iff.1 (plainDots_eq_nil_iff.1 hnil)]

/-- The form of anything but two dots is a segment of its own. -/
theorem isDoubleDot_of_percentForm (h : Text.PercentForm form bytes) (hne : bytes ≠ [0x2E, 0x2E]) :
    isDoubleDot form = false := by
  refine decide_eq_false fun hdots => hne ?_
  obtain ⟨form₁, bytes₁, hbytes, hform₁, hdot⟩ := exists_of_plainDots h hdots
  obtain ⟨form₂, bytes₂, hbytes₁, hform₂, hnil⟩ := exists_of_plainDots hform₁ hdot
  rw [hbytes, hbytes₁, hform₂.eq_nil_iff.1 (plainDots_eq_nil_iff.1 hnil)]

end Dots

/-! ## The whole text -/

/-- The components of a URL as they are written, of which none is missing and none is rewritten: the
scheme is none of those with rules of their own, and the segment is not one of those that stand for
a place relative to others. -/
structure Written where
  scheme : List Char
  user : List Char
  password : List Char
  host : List Char
  port : Nat
  segment : List Char
  scheme_ne_nil : scheme ≠ []
  scheme_lower : ∀ c ∈ scheme, c.isLower = true
  not_web : isWebScheme (String.ofList scheme) = false
  not_file : String.ofList scheme ≠ "file"
  user_unreserved : Unreserved user
  password_ne_nil : password ≠ []
  password_unreserved : Unreserved password
  host_ne_nil : host ≠ []
  host_unreserved : Unreserved host
  port_le : port ≤ 65535
  segment_unreserved : Unreserved segment
  not_dot : isSingleDot segment = false
  not_dots : isDoubleDot segment = false

namespace Written

variable (w : Written)

/-- User, password, host and port around their separators. -/
def authority : List Char :=
  w.user ++ ':' :: w.password ++ '@' :: (w.host ++ ':' :: Nat.toDigits 10 w.port)

/-- Everything before the query, around its separators. -/
def front : List Char := w.scheme ++ ':' :: '/' :: '/' :: (w.authority ++ '/' :: w.segment)

variable {w}

theorem mem_authority {c : Char} (hc : c ∈ w.authority) :
    isUserSpecial c = false ∨ c = ':' ∨ c = '@' := by
  simp only [authority, List.mem_append, List.mem_cons] at hc
  rcases hc with (hc | rfl | hc) | rfl | hc | rfl | hc
  · exact Or.inl (w.user_unreserved c hc)
  · exact Or.inr (Or.inl rfl)
  · exact Or.inl (w.password_unreserved c hc)
  · exact Or.inr (Or.inr rfl)
  · exact Or.inl (w.host_unreserved c hc)
  · exact Or.inr (Or.inl rfl)
  · exact Or.inl (unreserved_toDigits w.port c hc)

theorem mem_front {c : Char} (hc : c ∈ w.front) :
    isUserSpecial c = false ∨ c = ':' ∨ c = '@' ∨ c = '/' := by
  simp only [front, List.mem_append, List.mem_cons] at hc
  rcases hc with hc | rfl | rfl | rfl | hc | rfl | hc
  · exact Or.inl (unreserved_of_isLower (w.scheme_lower c hc))
  · exact Or.inr (Or.inl rfl)
  · exact Or.inr (Or.inr (Or.inr rfl))
  · exact Or.inr (Or.inr (Or.inr rfl))
  · rcases mem_authority hc with h | h | h
    · exact Or.inl h
    · exact Or.inr (Or.inl h)
    · exact Or.inr (Or.inr (Or.inl h))
  · exact Or.inr (Or.inr (Or.inr rfl))
  · exact Or.inl (w.segment_unreserved c hc)

variable (w)

theorem readAuthority (followed : Bool) :
    readAuthority (String.ofList w.scheme) followed w.authority =
      .ok ({ scheme := String.ofList w.scheme, username := w.user, password := some w.password,
             host := some (String.ofList w.host), port := some w.port }, []) := by
  have hat : '@' ∉ w.host ++ ':' :: Nat.toDigits 10 w.port := by
    intro hc
    rcases List.mem_append.1 hc with hc | hc
    · exact w.host_unreserved.not_mem rfl hc
    · rcases List.mem_cons.1 hc with hc | hc
      · contradiction
      · exact (unreserved_toDigits w.port).not_mem rfl hc
  have hport : splitAtPort false (w.host ++ ':' :: Nat.toDigits 10 w.port)
      = (w.host, ':' :: Nat.toDigits 10 w.port) :=
    splitAtPort_append (w.host_unreserved.not_mem rfl) (w.host_unreserved.not_mem rfl)
  have hname : String.ofList w.host ≠ "" := by
    intro h
    exact w.host_ne_nil (by simpa using h)
  -- Every question that is asked on the way has its answer in the facts above.
  simp only [Url.readAuthority, authority, Text.splitAtLast_append hat, Option.getD_some, hport,
    credentials_append w.user_unreserved w.password_unreserved w.password_ne_nil, w.not_web,
    opaqueHost_of_unreserved w.host_unreserved, List.drop_succ_cons, List.drop_zero,
    readPort_toDigits w.port_le, impliedPort?_of_not_web w.not_web]
  rw [if_neg (by simp)]
  simp only [Bool.false_eq_true, false_and, if_false, bind, Except.bind, hname]
  rfl

theorem readWithAuthority (followed : Bool) :
    readWithAuthority (String.ofList w.scheme) followed (w.authority ++ '/' :: w.segment) =
      .ok { scheme := String.ofList w.scheme, username := w.user, password := some w.password,
            host := some (String.ofList w.host), port := some w.port,
            path := '/' :: w.segment } := by
  -- The backslash ends the authority in the schemes of the web only.
  have hbefore : ∀ c ∈ w.authority, (!decide (c = '/')) = true := by
    intro c hc
    rw [Bool.not_eq_true', decide_eq_false_iff_not]
    intro heq
    subst heq
    rcases mem_authority hc with h | h | h <;> contradiction
  have hfront : (w.authority ++ '/' :: w.segment).takeWhile (fun c => !decide (c = '/'))
      = w.authority := takeWhile_stop hbefore rfl
  have hback : (w.authority ++ '/' :: w.segment).dropWhile (fun c => !decide (c = '/'))
      = '/' :: w.segment := dropWhile_stop hbefore rfl
  have hpath : ('/' :: w.segment).map (fun c => if c = '/' then '/' else c) = '/' :: w.segment := by
    refine List.map_id'' (fun c => ?_) _
    by_cases hc : c = '/'
    · rw [if_pos hc, hc]
    · rw [if_neg hc]
  have hsegment := Text.splitAtEach_of_not_mem
    (w.segment_unreserved.not_mem (c := '/') rfl)
  simp only [Url.readWithAuthority, w.not_web, Bool.false_and, Bool.or_false, hfront, hback,
    decide_eq_true_eq, hpath]
  rw [w.readAuthority]
  simp only [bind, Except.bind, ne_eq, not_true, if_false, List.cons_ne_nil, List.drop_succ_cons,
    List.drop_zero, hsegment,
    hierarchicalPath_singleton w.segment_unreserved w.not_dot w.not_dots]
  rfl

/-- Reading the text of a URL gives the components that were written. -/
theorem parse {query : List Char} (hquery : ∀ c ∈ query, isSpaceOrControl c = false)
    (hfragment : '#' ∉ query) :
    parse (String.ofList (w.front ++ '?' :: query)) =
      .ok { scheme := String.ofList w.scheme, username := w.user, password := some w.password,
            host := some (String.ofList w.host), port := some w.port, path := '/' :: w.segment,
            fields := formFields query } := by
  have hsignificant : ∀ c ∈ w.front ++ '?' :: query, isSpaceOrControl c = false := by
    intro c hc
    rcases List.mem_append.1 hc with hc | hc
    · rcases mem_front hc with h | rfl | rfl | rfl
      · exact isSpaceOrControl_eq_false h
      · rfl
      · rfl
      · rfl
    · rcases List.mem_cons.1 hc with rfl | hc
      · rfl
      · exact hquery c hc
  have hhash : '#' ∉ w.front ++ '?' :: query := by
    intro hc
    rcases List.mem_append.1 hc with hc | hc
    · rcases mem_front hc with h | h | h | h <;> contradiction
    · rcases List.mem_cons.1 hc with hc | hc
      · contradiction
      · exact hfragment hc
  have hmark : '?' ∉ w.front := by
    intro hc
    rcases mem_front hc with h | h | h | h <;> contradiction
  rw [Url.parse, significant_ofList hsignificant, Text.splitAtFirst_of_not_mem hhash]
  dsimp only
  rw [Text.splitAtFirst_append hmark]
  dsimp only
  rw [front, splitScheme?_append w.scheme_ne_nil w.scheme_lower]
  dsimp only
  rw [readHierarchy, w.not_web, if_neg Bool.false_ne_true, if_neg w.not_file]
  rw [w.readWithAuthority]
  rfl

end Written

end SchemaMigration.Url
