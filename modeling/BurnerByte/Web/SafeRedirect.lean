import BurnerByte.Web.Url

/-!
# Redirects after signing in

The sign-in page takes the path to go to from a query parameter, which anyone can put into a link.
`safeRedirect` lets through what begins with one slash and holds no `://`. A browser
reads more as two slashes than the filter does: with a backslash for the second, or with a tab or a
newline between them, the reference leads to a host of its own.
-/

namespace BurnerByte.SafeRedirect

open Url

/-- JavaScript's `String.startsWith`. -/
def startsWith (s front : Text) : Bool := front.isPrefixOf s

/-- JavaScript's `String.includes`. -/
def includes (s part : Text) : Bool := s.tails.any fun rest => part.isPrefixOf rest

/-- What the filter lets through. -/
def isPath (url : Text) : Bool :=
  !(!startsWith url (text "/") || startsWith url (text "//") || includes url (text "://"))

def safeRedirect (url : Option Text) : Text :=
  match url with
  | none => text "/"
  | some url =>
    if url = [] then text "/"
    else if isPath url then url
    else text "/"

/-- A text that the filter takes for a path and a browser for an authority: after the first slash
and any tabs and newlines comes another slash or a backslash. -/
def isDisguised (url : Text) : Bool := isPath url && beginsWithSlash url.tail

/-- The root path, and every text that is let through, is a slash with something after it. -/
theorem safeRedirect_eq (url : Option Text) :
    ∃ rest, safeRedirect url = 47 :: rest ∧
      (beginsWithSlash rest = true ↔ ∃ s, url = some s ∧ isDisguised s = true) := by
  have hroot : ∀ s, url = some s → isPath s = false →
      (beginsWithSlash [] = true ↔ ∃ s, url = some s ∧ isDisguised s = true) := by
    rintro s rfl hpath
    refine iff_of_false Bool.false_ne_true ?_
    rintro ⟨s', hs', hdisguised⟩
    cases hs'
    rw [isDisguised, hpath] at hdisguised
    cases hdisguised
  cases url with
  | none => exact ⟨[], rfl, iff_of_false Bool.false_ne_true fun ⟨_, h, _⟩ => nomatch h⟩
  | some url =>
    rw [safeRedirect]
    split
    · rename_i hnil
      subst hnil
      exact ⟨[], rfl, hroot [] rfl (by decide)⟩
    split
    · rename_i hpath
      have hslash := hpath
      simp only [isPath, Bool.not_eq_true', Bool.or_eq_false_iff, Bool.not_eq_false'] at hslash
      obtain ⟨rest, rfl⟩ := List.isPrefixOf_iff_prefix.mp hslash.1.1
      refine ⟨rest, rfl, ?_⟩
      constructor
      · exact fun h => ⟨_, rfl, by rw [isDisguised, hpath]; exact h⟩
      · rintro ⟨s, hs, hdisguised⟩
        cases hs
        exact (Bool.and_eq_true_iff.mp hdisguised).2
    · rename_i hpath
      exact ⟨[], rfl, hroot url rfl (Bool.eq_false_iff.mpr hpath)⟩

/-- A page of a host. -/
def pageOf (host : Text) : Page := ⟨⟨.https, host, none⟩, no_port_ok _⟩

/-- In every page the redirect stays within the page's origin, exactly if the parameter is not
disguised. -/
theorem safeRedirect_sameOrigin_iff (parseHost : Text → Option Text) (url : Option Text) :
    (∀ page, resolve parseHost page (safeRedirect url) = some page.toOrigin) ↔
      ¬ ∃ s, url = some s ∧ isDisguised s = true := by
  obtain ⟨rest, hredirect, hbegins⟩ := safeRedirect_eq url
  have hslash : isSlash 47 = true := rfl
  rw [hredirect, ← hbegins]
  constructor
  · intro h hauthority
    -- two pages of other hosts would have the origin that the reference names
    have hsame : resolve parseHost (pageOf (text "a")) (47 :: rest) =
        resolve parseHost (pageOf (text "b")) (47 :: rest) := by
      rw [resolve_slash _ _ hslash, resolve_slash _ _ hslash, if_pos hauthority, if_pos hauthority]
      rfl
    rw [h, h] at hsame
    exact absurd hsame (by decide)
  · intro h page
    rw [resolve_slash _ _ hslash, if_neg h]

/-- Both a backslash and a tab lead away. Host names in lower case are parsed as they are. -/
theorem disguised_leads_away :
    resolve some (pageOf (text "app.test")) (safeRedirect (some (text "/\\evil.test")))
        = some (pageOf (text "evil.test")).toOrigin ∧
      resolve some (pageOf (text "app.test")) (safeRedirect (some (text "/\t/evil.test")))
        = some (pageOf (text "evil.test")).toOrigin := by
  decide +kernel

end BurnerByte.SafeRedirect
