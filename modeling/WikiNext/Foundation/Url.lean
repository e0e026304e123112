import Mathlib.Data.List.TakeWhile
import WikiNext.Foundation.IpAddr

/-!
# Parsed URLs

The record a URL parser produces and the operations on it that callers rely
on. Parsing and relative resolution stay parameters.
-/

namespace WikiNext.Foundation

/-- A host. A scheme the parser has no special rules for leaves every name,
dotted quads included, as a `domain`, percent signs and all. -/
inductive Host where
  | domain (name : String)
  | ipv4 (address : IpAddr)
  | ipv6 (address : IpAddr)
deriving DecidableEq, Repr

structure Url where
  scheme : String
  username : String
  password : Option String
  host : Option Host
  port : Option Nat
  path : String
  /-- The decoded pairs of the query, when there is a query. -/
  query : Option (List (String × String))
  fragment : Option String
deriving DecidableEq, Repr

def Url.query_pairs (url : Url) : List (String × String) := url.query.getD []

inductive UrlParseError where
  | mk (detail : String)
deriving DecidableEq, Repr

/-- What the URL library provides. -/
structure UrlCrate where
  parse : String → Except UrlParseError Url
  join : Url → String → Except UrlParseError Url

/-! ## Text operations -/

/-- `str::trim_matches(char)` -/
def trimMatches (c : Char) (text : String) : String :=
  String.ofList
    (((text.toList.dropWhile (· == c)).reverse.dropWhile (· == c)).reverse)

/-- `str::trim_start_matches(char)` -/
def trimStartMatches (c : Char) (text : String) : String :=
  String.ofList (text.toList.dropWhile (· == c))

/-- `str::starts_with(&str)` -/
def startsWith (text start : String) : Bool := start.toList.isPrefixOf text.toList

/-- `str::eq_ignore_ascii_case` -/
def eqIgnoreAsciiCase (a b : String) : Bool :=
  a.toList.map Char.toLower == b.toList.map Char.toLower

/-- Trimming leaves nothing exactly when nothing else was there. -/
theorem trimMatches_eq_empty_iff (c : Char) (text : String) :
    (trimMatches c text).isEmpty = true ↔ ∀ x ∈ text.toList, x = c := by
  rw [trimMatches, String.isEmpty_iff, ← String.toList_inj, String.toList_ofList]
  simp only [String.toList_empty, List.reverse_eq_nil_iff, List.dropWhile_eq_nil_iff,
    List.mem_reverse, beq_iff_eq]
  constructor
  · intro h x hx
    rw [← List.takeWhile_append_dropWhile (p := (· == c)) (l := text.toList)] at hx
    rcases List.mem_append.mp hx with hx | hx
    · simpa using List.mem_takeWhile_imp hx
    · exact h x hx
  · intro h x hx
    exact h x ((List.dropWhile_sublist _).subset hx)

theorem trimStartMatches_ne_empty {c : Char} {text : String} (h : ∃ x ∈ text.toList, x ≠ c) :
    trimStartMatches c text ≠ "" := by
  obtain ⟨x, hx, hne⟩ := h
  intro hempty
  rw [trimStartMatches, ← String.toList_inj, String.toList_ofList, String.toList_empty,
    List.dropWhile_eq_nil_iff] at hempty
  exact hne (by simpa using hempty x hx)

theorem slash_mem_of_startsWith {text : String} (h : startsWith text "/" = true) :
    '/' ∈ text.toList := by
  have hprefix : ['/'] <+: text.toList := List.isPrefixOf_iff_prefix.mp h
  exact hprefix.subset (List.mem_singleton_self '/')

end WikiNext.Foundation
