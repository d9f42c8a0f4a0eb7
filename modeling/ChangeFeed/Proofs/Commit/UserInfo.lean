import ChangeFeed.Proofs.Commit.Remote

/-!
# What displays tell about users

Of the user of a URL, a display drops what comes before the first at sign, with that sign. A user
that has an at sign itself is shown from there on (`exposed`), in front of the at sign before the
host (`display_withUser`). That is all a display tells, and it does tell it: two users are displayed
alike exactly if they expose the same (`display_withUser_eq_iff`), and users without at signs
expose nothing.
-/

namespace ChangeFeed

namespace Text

variable {sep : Char} {a b front back : Text}

theorem eq_append_of_append_eq_cons (h : sep ∉ a) (he : a ++ b = front ++ sep :: back) :
    ∃ t, front = a ++ t ∧ b = t ++ sep :: back := by
  rcases List.append_eq_append_iff.1 he with ⟨t, hf, hb⟩ | ⟨t, ha, hb⟩
  · exact ⟨t, hf, hb⟩
  · cases t with
    | nil => exact ⟨[], by rw [ha, List.append_nil, List.append_nil], hb.symm⟩
    | cons c t =>
      obtain ⟨rfl, -⟩ := List.cons.inj hb
      exact absurd (by rw [ha]; simp) h

theorem eq_append_of_append_cons_eq (h : sep ∉ b) (he : front ++ sep :: back = a ++ b) :
    ∃ t, a = front ++ sep :: t ∧ back = t ++ b := by
  rcases List.append_eq_append_iff.1 he with ⟨t, ha, hb⟩ | ⟨t, -, hb⟩
  · cases t with
    | nil => exact absurd (by rw [show b = sep :: back from hb.symm]; simp) h
    | cons c t =>
      obtain ⟨rfl, ht⟩ := List.cons.inj hb
      exact ⟨t, ha, ht⟩
  · exact absurd (by rw [hb]; simp) h

theorem dropEndWhile_isPrefix (p : Char → Bool) (t : Text) : dropEndWhile p t <+: t := by
  rw [dropEndWhile, ← List.reverse_suffix, List.reverse_reverse]
  exact List.dropWhile_suffix p

end Text

namespace Remote

open Text (IsBlankFree)

variable {scheme user host path front shown u v : Text}

/-! ### The part of a location in front of its first slash -/

/-- What stands in front of the first slash. -/
def authority (t : Text) : Text := t.takeWhile (· != '/')

theorem authority_append (hs : '/' ∉ front) (back : Text) :
    authority (front ++ back) = front ++ authority back :=
  List.takeWhile_append_of_pos fun c hc => by simpa using ne_of_mem_of_not_mem hc hs

theorem authority_append_cons (hs : '/' ∉ front) (back : Text) :
    authority (front ++ '/' :: back) = front := by
  have hback : authority ('/' :: back) = [] := List.takeWhile_cons_of_neg (by simp)
  rw [authority_append hs, hback, List.append_nil]

theorem authority_subset (hs : '/' ∉ host) (h : shown <+: host ++ '/' :: path) :
    authority shown ⊆ host := by
  obtain ⟨t, ht⟩ := h
  rw [← authority_append_cons hs path, ← ht, authority, authority, List.takeWhile_append]
  split
  · exact fun c hc => List.mem_append_left _ ((List.takeWhile_prefix _).subset hc)
  · exact List.Subset.refl _

/-! ### Users -/

/-- What a display shows of a user: the part behind the first at sign. -/
def exposed (user : Text) : Option Text := (Text.cut? '@' user).map Prod.snd

/-- The URL with a user in front of its host. -/
def withUser (scheme user host path : Text) : Text :=
  scheme ++ "://" ++ (user ++ '@' :: (host ++ '/' :: path))

/-- Whatever can stand in front of the last at sign before a host. -/
structure IsUserInfo (user : Text) : Prop where
  isBlankFree : IsBlankFree user
  slash : '/' ∉ user

/-- Whatever can stand behind that at sign: a host, or none, with a port or not. -/
structure IsPlace (host : Text) : Prop where
  isBlankFree : IsBlankFree host
  slash : '/' ∉ host
  atSign : '@' ∉ host

theorem exposed_of_not_mem (ha : '@' ∉ user) : exposed user = none := by
  rw [exposed, Text.cut?_of_not_mem ha, Option.map_none]

theorem exposed_append (ha : '@' ∉ front) (rest : Text) :
    exposed (front ++ '@' :: rest) = some rest := by
  rw [exposed, Text.cut?_eq_some_iff.2 ⟨rfl, ha⟩, Option.map_some]

theorem exposed_suffix {rest : Text} (h : rest ∈ exposed user) : rest <:+ user := by
  by_cases ha : '@' ∈ user
  · obtain ⟨front, back, rfl, hf⟩ := List.eq_append_cons_of_mem ha
    obtain rfl : back = rest := by simpa [exposed_append hf] using h
    exact (List.suffix_cons '@' back).trans (List.suffix_append front _)
  · simp [exposed_of_not_mem ha] at h

theorem IsUserInfo.exposed (h : IsUserInfo user) : ∀ rest ∈ exposed user, IsUserInfo rest :=
  fun _ hr => ⟨fun c hc => h.isBlankFree c ((exposed_suffix hr).subset hc),
    fun hm => h.slash ((exposed_suffix hr).subset hm)⟩

theorem slash_not_mem_userPart {user : Option Text} (h : ∀ u ∈ user, IsUserInfo u) :
    '/' ∉ userPart user := by
  cases user with
  | none => exact List.not_mem_nil
  | some u => simp [userPart, (h u rfl).slash]

theorem dropUser_exposed (hs : '/' ∉ user) (rest : Text) :
    dropUser (user ++ '@' :: rest) = userPart (exposed user) ++ rest := by
  by_cases ha : '@' ∈ user
  · obtain ⟨front, back, rfl, hf⟩ := List.eq_append_cons_of_mem ha
    have hslash : '/' ∉ front := fun hm => hs (by simp [hm])
    rw [exposed_append hf, userPart, List.append_assoc, List.cons_append,
      dropUser_append hf hslash]
    simp
  · rw [exposed_of_not_mem ha, userPart, List.nil_append, dropUser_append ha hs]

/-! ### What is left of a location -/

/-- At most a colon with digits is dropped, at the end of a location or in front of a slash. -/
theorem dropPort_cases (t : Text) : dropPort t = t ∨ ∃ host port back,
    t = host ++ ':' :: (port ++ back) ∧ '/' ∉ host ∧ (∀ c ∈ port, Text.isDecimal c = true) ∧
      (∀ c ∈ back.head?, c = '/') ∧ dropPort t = host ++ back := by
  unfold dropPort
  cases hsplit : splitAtColon? t with
  | none => exact .inl rfl
  | some parts =>
    obtain ⟨host, rest⟩ := parts
    obtain ⟨rfl, -, -, hs⟩ := splitAtColon?_eq_some_iff.1 hsplit
    cases hspan : rest.span Text.isDecimal with
    | mk port back =>
      obtain ⟨rfl, hdec, -⟩ := Text.span_eq_iff.1 hspan
      simp only [hspan]
      split
      · exact .inl rfl
      · next he =>
        obtain ⟨-, rfl⟩ := Prod.mk.inj he
        exact .inr ⟨host, port, [], rfl, hs, hdec, by simp, by simp⟩
      · next path _ he =>
        obtain ⟨-, rfl⟩ := Prod.mk.inj he
        exact .inr ⟨host, port, '/' :: path, rfl, hs, hdec, by simp, rfl⟩
      · exact .inl rfl

theorem dropPort_append_cons (hs : '/' ∉ front) (path : Text) :
    ∃ left, dropPort (front ++ '/' :: path) = left ++ '/' :: path ∧ (front = left ∨
      ∃ port, front = left ++ ':' :: port ∧ ∀ c ∈ port, Text.isDecimal c = true) := by
  rcases dropPort_cases (front ++ '/' :: path) with h | ⟨host, port, back, he, hhs, hdec, hback, h⟩
  · exact ⟨front, h, .inl rfl⟩
  · have hport : '/' ∉ host ++ ':' :: port := by
      have hps : '/' ∉ port := fun hm => absurd (hdec _ hm) (by decide)
      simp [hhs, hps]
    have he' : (host ++ ':' :: port) ++ back = front ++ '/' :: path := by simp [he]
    obtain ⟨t, hf, rfl⟩ := Text.eq_append_of_append_eq_cons hport he'
    obtain rfl : t = [] := by
      cases t with
      | nil => rfl
      | cons c t => exact absurd (by simp [hf, show c = '/' from hback c rfl]) hs
    exact ⟨host, h, .inr ⟨port, by rw [hf, List.append_nil], hdec⟩⟩

theorem userPart_append_eq {user : Option Text} {left port : Text} (hp : '@' ∉ port)
    (h : userPart user ++ host = left ++ ':' :: port) :
    ∃ t, left = userPart user ++ t ∧ t <+: host := by
  cases user with
  | none => exact ⟨left, rfl, ':' :: port, by simpa [userPart] using h.symm⟩
  | some u =>
    have he : u ++ '@' :: host = left ++ ':' :: port := by simpa [userPart] using h
    obtain ⟨t, rfl, ht⟩ := Text.eq_append_of_append_cons_eq (by simp [hp]) he
    exact ⟨t, by simp [userPart], ':' :: port, ht.symm⟩

/-- Of its user, the location of a URL has what the user exposes. -/
theorem location_eq_of_user (h : IsScheme scheme) (hu : IsUserInfo user) (hh : IsPlace host)
    (hp : IsBlankFree path) :
    location (withUser scheme user host path) =
      if isWeb scheme then userPart (exposed user) ++ (host ++ '/' :: path)
      else dropPort (userPart (exposed user) ++ (host ++ '/' :: path)) := by
  have hplace : IsBlankFree (userPart (exposed user) ++ (host ++ '/' :: path)) := by
    have hpart := isBlankFree_userPart fun r hr => (hu.exposed r hr).isBlankFree
    simp only [Text.isBlankFree_append, Text.isBlankFree_cons]
    exact ⟨hpart, hh.isBlankFree, by decide, hp⟩
  exact location_append h (dropUser_exposed hu.slash _) hplace.newline_not_mem

theorem location_withUser (h : IsScheme scheme) (hu : IsUserInfo user) (hh : IsPlace host)
    (hp : IsBlankFree path) :
    ∃ left, '@' ∉ left ∧ '/' ∉ left ∧
      location (withUser scheme user host path) =
        userPart (exposed user) ++ (left ++ '/' :: path) := by
  rw [location_eq_of_user h hu hh hp]
  split
  · exact ⟨host, hh.atSign, hh.slash, rfl⟩
  · have hslash : '/' ∉ userPart (exposed user) ++ host := fun hm =>
      (List.mem_append.1 hm).elim (slash_not_mem_userPart hu.exposed) hh.slash
    obtain ⟨left, hleft, rfl | ⟨port, he, hdec⟩⟩ := dropPort_append_cons hslash path
    · exact ⟨host, hh.atSign, hh.slash, by rw [← List.append_assoc, hleft]⟩
    · have hport : '@' ∉ port := fun hm => absurd (hdec _ hm) (by decide)
      obtain ⟨t, rfl, ht⟩ := userPart_append_eq hport he
      refine ⟨t, fun hm => hh.atSign (ht.subset hm), fun hm => hh.slash (ht.subset hm), ?_⟩
      rw [← List.append_assoc, hleft, List.append_assoc]

theorem tidy_append_cons (t u : Text) : tidy (t ++ '@' :: u) = t ++ '@' :: tidy u := by
  have hd := Text.dropEndWhile_append_cons (p := (· == '/')) (c := '@') (by decide) t u
  rw [tidy, hd, tidy]
  generalize Text.dropEndWhile (· == '/') u = v
  by_cases hv : ".git".toList <:+ v
  · obtain ⟨w, rfl⟩ := hv
    rw [dropSuffix_append, ← List.cons_append, ← List.append_assoc, dropSuffix_append]
  · have hv' : ¬".git".toList <:+ t ++ '@' :: v := fun h =>
      hv ((Text.suffix_append_cons_iff (by decide)).1 h)
    rw [dropSuffix_of_not_suffix hv, dropSuffix_of_not_suffix hv']

theorem tidy_userPart (user : Option Text) (t : Text) :
    tidy (userPart user ++ t) = userPart user ++ tidy t := by
  cases user with
  | none => rfl
  | some u => simp [userPart, tidy_append_cons]

theorem tidy_isPrefix (t : Text) : tidy t <+: t := by
  have hd := Text.dropEndWhile_isPrefix (· == '/') t
  rw [tidy, dropSuffix]
  split
  · exact (List.take_prefix _ _).trans hd
  · exact hd

/-! ### Displays -/

theorem isBlankFree_withUser (h : IsScheme scheme) (hu : IsUserInfo user) (hh : IsPlace host)
    (hp : IsBlankFree path) : IsBlankFree (withUser scheme user host path) := by
  simp only [withUser, Text.isBlankFree_append, Text.isBlankFree_cons]
  exact ⟨⟨h.isBlankFree, by decide⟩, hu.isBlankFree, by decide, hh.isBlankFree, by decide, hp⟩

/-- A display starts with what the user exposes and the at sign behind that; there is no other at
sign in front of the first slash. -/
theorem display_withUser (h : IsScheme scheme) (hu : IsUserInfo user) (hh : IsPlace host)
    (hp : IsBlankFree path) :
    ∃ shown, display (withUser scheme user host path) = userPart (exposed user) ++ shown ∧
      '@' ∉ authority shown := by
  obtain ⟨left, ha, hs, hloc⟩ := location_withUser h hu hh hp
  refine ⟨tidy (left ++ '/' :: path), ?_, fun hm => ha ?_⟩
  · rw [display_eq (isBlankFree_withUser h hu hh hp), hloc, tidy_userPart]
  · exact authority_subset hs (tidy_isPrefix _) hm

theorem display_of_exposed_eq (h : IsScheme scheme) (hh : IsPlace host) (hp : IsBlankFree path)
    (hu : IsUserInfo u) (hv : IsUserInfo v) (he : exposed u = exposed v) :
    display (withUser scheme u host path) = display (withUser scheme v host path) := by
  rw [display_eq (isBlankFree_withUser h hu hh hp), display_eq (isBlankFree_withUser h hv hh hp),
    location_eq_of_user h hu hh hp, location_eq_of_user h hv hh hp, he]

theorem cutLast?_authority {user : Option Text} (hu : ∀ u ∈ user, IsUserInfo u)
    (ha : '@' ∉ authority shown) :
    (Text.cutLast? '@' (authority (userPart user ++ shown))).map Prod.fst = user := by
  rw [authority_append (slash_not_mem_userPart hu)]
  cases user with
  | none => rw [userPart, List.nil_append, Text.cutLast?_eq_none_iff.2 ha, Option.map_none]
  | some u =>
    have hc : Text.cutLast? '@' (userPart (some u) ++ authority shown) =
        some (u, authority shown) := Text.cutLast?_eq_some_iff.2 ⟨by simp [userPart], ha⟩
    rw [hc, Option.map_some]

/-- Two URLs that differ in their users only are displayed alike exactly if the users agree behind
the first at sign in them, or have none; no batch tells such URLs apart. -/
theorem display_withUser_eq_iff (h : IsScheme scheme) (hh : IsPlace host) (hp : IsBlankFree path)
    (hu : IsUserInfo u) (hv : IsUserInfo v) :
    (display (withUser scheme u host path) = display (withUser scheme v host path) ↔
        exposed u = exposed v) ∧
      (exposed u = exposed v → ∀ (a : Analyzer) diff tags (c : Commit),
        a.build diff tags (c.withRemote (withUser scheme u host path)) =
          a.build diff tags (c.withRemote (withUser scheme v host path))) := by
  have hsame := display_of_exposed_eq h hh hp hu hv
  refine ⟨⟨fun hd => ?_, hsame⟩, fun he a diff tags c => a.build_withRemote (hsame he) diff tags c⟩
  obtain ⟨x, hx, hax⟩ := display_withUser h hu hh hp
  obtain ⟨y, hy, hay⟩ := display_withUser h hv hh hp
  rw [← cutLast?_authority hu.exposed hax, ← cutLast?_authority hv.exposed hay, ← hx, ← hy, hd]

/-- The ends of two passwords with an at sign in them are the same and are shown; a password without
one is not. -/
theorem display_withUser_eq_passwords :
    IsScheme "https".toList ∧ IsPlace "example.com".toList ∧ IsBlankFree "acme/app.git".toList ∧
      IsUserInfo "alice:p@ss".toList ∧ IsUserInfo "bob@ss".toList ∧ IsUserInfo "alice".toList ∧
      display (withUser "https" "alice:p@ss" "example.com" "acme/app.git") =
        "ss@example.com/acme/app" ∧
      display (withUser "https" "alice:p@ss" "example.com" "acme/app.git") =
        display (withUser "https" "bob@ss" "example.com" "acme/app.git") ∧
      display (withUser "https" "alice:p@ss" "example.com" "acme/app.git") ≠
        display (withUser "https" "alice" "example.com" "acme/app.git") ∧
      ∀ diff tags,
        Analyzer.default.build diff tags (Commit.byJane.withRemote
          (withUser "https" "alice:p@ss" "example.com" "acme/app.git")) =
        Analyzer.default.build diff tags (Commit.byJane.withRemote
          (withUser "https" "bob@ss" "example.com" "acme/app.git")) := by
  have hs : IsScheme "https".toList := isScheme_of_name (by simp)
  have hh : IsPlace "example.com".toList := ⟨by decide, by decide, by decide⟩
  have hp : IsBlankFree "acme/app.git".toList := by decide
  have hu : IsUserInfo "alice:p@ss".toList := ⟨by decide, by decide⟩
  have hv : IsUserInfo "bob@ss".toList := ⟨by decide, by decide⟩
  have hw : IsUserInfo "alice".toList := ⟨by decide, by decide⟩
  obtain ⟨hdisplay, hbuild⟩ := display_withUser_eq_iff hs hh hp hu hv
  have hne := (display_withUser_eq_iff hs hh hp hu hw).1
  exact ⟨hs, hh, hp, hu, hv, hw, by decide, hdisplay.2 (by decide),
    fun he => absurd (hne.1 he) (by decide),
    fun diff tags => hbuild (by decide) .default diff tags .byJane⟩

end Remote

end ChangeFeed
