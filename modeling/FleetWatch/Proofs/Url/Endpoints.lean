import FleetWatch.Proofs.Url.Paths
import Mathlib.Data.List.TakeWhile

/-! # Endpoints of a host and a port

An endpoint that is `http://`, a host, a colon and a port. What is put behind it, from a slash on,
is the path of the URL that both make, and nothing of it is taken for a part of the host.
-/

namespace FleetWatch

/-- A character that ends no part of a URL in front of the path. -/
def Url.isBare (c : Char) : Bool := 0x20 < c.toNat && !"/\\?#@".toList.contains c

/-- An endpoint `http://host:port`. -/
structure HttpEndpoint where
  /-- The host as it is written. -/
  host : List Char
  /-- The digits of the port. -/
  port : List Char
  /-- The host as requests have it. -/
  address : List Char
  host_bare : ∀ c ∈ host, Url.isBare c = true
  /-- A colon stands in the host only if it is in brackets. -/
  host_form : (':' ∉ host ∧ host.head? ≠ some '[') ∨
    ∃ inner, host = '[' :: inner ++ [']'] ∧ ']' ∉ inner
  host_eq : Host.web? host = some address
  port_digits : ∀ c ∈ port, Digits.isDigit c = true
  port_lt : Digits.toNat port < 65536

namespace HttpEndpoint

def authority (e : HttpEndpoint) : List Char := e.host ++ ':' :: e.port

def text (e : HttpEndpoint) : String := String.ofList ("http://".toList ++ e.authority)

/-- The port as requests have it: none if it is the usual one or left open. -/
def portNumber? (e : HttpEndpoint) : Option Nat :=
  if e.port.isEmpty ∨ Digits.toNat e.port = 80 then none else some (Digits.toNat e.port)

end HttpEndpoint

namespace Url

/-! ## Parts of a text -/

theorem cleaned_eq_self {text : List Char} (visible : ∀ c ∈ text, 0x20 < c.toNat) :
    cleaned text = text := by
  have inside : ∀ l : List Char, (∀ c ∈ l, 0x20 < c.toNat) →
      l.dropWhile (fun c => decide (c.toNat ≤ 0x20)) = l := by
    intro l visible
    cases l with
    | nil => rfl
    | cons c l =>
        have seen := visible c List.mem_cons_self
        exact List.dropWhile_cons_of_neg (by simpa using seen)
  have noBreak : ∀ c ∈ text,
      (decide (c ≠ '\t') && decide (c ≠ '\n') && decide (c ≠ '\r')) = true := by
    intro c listed
    have seen := visible c listed
    simp only [Bool.and_eq_true, decide_eq_true_eq]
    refine ⟨⟨?_, ?_⟩, ?_⟩ <;> (rintro rfl; exact absurd seen (by decide))
  simp only [cleaned, inside text visible]
  rw [inside text.reverse fun c listed => visible c (List.mem_reverse.mp listed),
    List.reverse_reverse]
  exact List.filter_eq_self.mpr noBreak

theorem takeWhile_upto {p : Char → Bool} {a : List Char} (free : ∀ c ∈ a, p c = true) {mark : Char}
    (stops : p mark = false) (b : List Char) : (a ++ mark :: b).takeWhile p = a := by
  rw [List.takeWhile_append_of_pos free, List.takeWhile_cons_of_neg (by simp [stops]),
    List.append_nil]

theorem dropWhile_upto {p : Char → Bool} {a : List Char} (free : ∀ c ∈ a, p c = true) {mark : Char}
    (stops : p mark = false) (b : List Char) : (a ++ mark :: b).dropWhile p = mark :: b := by
  rw [List.dropWhile_append_of_pos free, List.dropWhile_cons_of_neg (by simp [stops])]

theorem ne_of_not_mem {mark : Char} {text : List Char} (free : mark ∉ text) :
    ∀ c ∈ text, decide (c ≠ mark) = true :=
  fun _ listed => decide_eq_true fun same => free (same ▸ listed)

theorem cut_of_not_mem {mark : Char} {text : List Char} (free : mark ∉ text) :
    cut mark text = (text, none) := by
  rw [cut, List.dropWhile_eq_nil_iff.mpr (ne_of_not_mem free)]

theorem cut_append {mark : Char} {a : List Char} (free : mark ∉ a) (b : List Char) :
    cut mark (a ++ mark :: b) = (a, some b) := by
  have stops : decide (mark ≠ mark) = false := by simp
  rw [cut, dropWhile_upto (ne_of_not_mem free) stops, takeWhile_upto (ne_of_not_mem free) stops]

/-! ## The authority -/

theorem credentials?_of_not_mem {text : List Char} (free : '@' ∉ text) :
    credentials? text = none := by
  have none : text.reverse.dropWhile (· ≠ '@') = [] :=
    List.dropWhile_eq_nil_iff.mpr (ne_of_not_mem fun listed => free (List.mem_reverse.mp listed))
  rw [credentials?, none]

theorem behindLast_of_not_mem {mark : Char} {text : List Char} (free : mark ∉ text) :
    behindLast mark text = text := by
  rw [behindLast, List.takeWhile_eq_self_iff.mpr
    (ne_of_not_mem fun listed => free (List.mem_reverse.mp listed)), List.reverse_reverse]

theorem splitPort_of_not_mem {host : List Char} (noColon : ':' ∉ host)
    (noBracket : host.head? ≠ some '[') (port : List Char) :
    splitPort (host ++ ':' :: port) = (host, some port) := by
  have plain : splitPort (host ++ ':' :: port) = cut ':' (host ++ ':' :: port) := by
    cases host with
    | nil => rfl
    | cons c host =>
        have first : c ≠ '[' := fun same => noBracket (congrArg some same)
        unfold splitPort
        split
        · rename_i starts
          exact absurd (List.cons.inj starts).1 first
        · rfl
  rw [plain, cut_append noColon]

theorem splitPort_of_brackets {inner : List Char} (noEnd : ']' ∉ inner) (port : List Char) :
    splitPort ('[' :: inner ++ [']'] ++ ':' :: port) = ('[' :: inner ++ [']'], some port) := by
  have stops : decide (']' ≠ ']') = false := by simp
  have free : ∀ c ∈ '[' :: inner, decide (c ≠ ']') = true :=
    ne_of_not_mem (by simpa using noEnd)
  have split := dropWhile_upto free stops (':' :: port)
  have front := takeWhile_upto free stops (':' :: port)
  rw [List.cons_append] at split front
  simp only [List.cons_append, List.append_assoc, List.nil_append, splitPort, split, front]

theorem port?_of_digits {port : List Char} (digits : ∀ c ∈ port, Digits.isDigit c = true)
    (small : Digits.toNat port < 65536) :
    port? port = some (if port.isEmpty then none else some (Digits.toNat port), []) := by
  rw [port?, List.takeWhile_eq_self_iff.mpr digits, List.dropWhile_eq_nil_iff.mpr digits]
  cases port <;> simp [small]

end Url

namespace HttpEndpoint

variable (e : HttpEndpoint)

theorem splitPort_authority : Url.splitPort e.authority = (e.host, some e.port) := by
  rcases e.host_form with ⟨noColon, noBracket⟩ | ⟨inner, bracketed, noEnd⟩
  · exact Url.splitPort_of_not_mem noColon noBracket e.port
  · rw [authority, bracketed]
    exact Url.splitPort_of_brackets noEnd e.port

theorem isBare_of_isDigit {c : Char} (digit : Digits.isDigit c = true) : Url.isBare c = true := by
  have bounds : '0' ≤ c ∧ c ≤ '9' := by simpa [Digits.isDigit, Digits.value?] using digit
  have ascii : c.toNat < 0x80 := Nat.lt_of_le_of_lt bounds.2 (by decide)
  have all : ∀ n < 0x80, Digits.isDigit (.ofNat n) = true → Url.isBare (.ofNat n) = true := by
    decide
  have bare := all c.toNat ascii
  rw [Char.ofNat_toNat] at bare
  exact bare digit

theorem authority_bare : ∀ c ∈ e.authority, Url.isBare c = true := by
  intro c listed
  rcases List.mem_append.mp listed with inHost | behind
  · exact e.host_bare c inHost
  rcases List.mem_cons.mp behind with rfl | inPort
  · decide
  · exact isBare_of_isDigit (e.port_digits c inPort)

theorem not_mem_authority {mark : Char} (ends : Url.isBare mark = false) : mark ∉ e.authority := by
  intro listed
  rw [e.authority_bare mark listed] at ends
  contradiction

theorem authority?_eq :
    Url.authority? "http".toList e.authority = some ⟨none, e.address, e.portNumber?, []⟩ := by
  have noAt : '@' ∉ e.authority := e.not_mem_authority (by decide)
  have web : Url.webPort? "http".toList = some 80 := rfl
  simp only [Url.authority?, Url.credentials?_of_not_mem noAt, Url.behindLast_of_not_mem noAt,
    e.splitPort_authority, Option.getD_some, Url.port?_of_digits e.port_digits e.port_lt, web,
    e.host_eq, Option.bind_eq_bind, Option.bind_some, List.isEmpty_nil, Bool.not_true,
    Bool.false_eq_true, if_false, portNumber?]
  by_cases blank : e.port.isEmpty = true
  · simp [blank]
  · by_cases usual : Digits.toNat e.port = 80
    · simp [blank, usual]
    · simp [blank, usual]

end HttpEndpoint

/-! ## The path behind an authority -/

namespace Url

/-- A character of a path that is read as it is. -/
def isPathChar (c : Char) : Bool := c = '/' || Percent.standsInPath c

theorem bounds_of_isPathChar {c : Char} (h : isPathChar c = true) :
    0x20 < c.toNat ∧ c ≠ '\\' ∧ c ≠ '?' ∧ c ≠ '#' := by
  rcases Bool.or_eq_true_iff.mp h with slash | stands
  · rw [of_decide_eq_true slash]
    decide
  · obtain ⟨seen, -, others⟩ := Percent.not_separator_of_standsInPath stands
    exact ⟨seen, others⟩

theorem bounds_of_isBare {c : Char} (h : isBare c = true) :
    0x20 < c.toNat ∧ c ≠ '/' ∧ c ≠ '\\' ∧ c ≠ '?' ∧ c ≠ '#' := by
  obtain ⟨seen, unmarked⟩ := Bool.and_eq_true_iff.mp h
  refine ⟨of_decide_eq_true seen, ?_, ?_, ?_, ?_⟩ <;>
    (rintro rfl; exact absurd unmarked (by decide))

theorem slashed_eq_self {text : List Char} (free : '\\' ∉ text) : slashed text = text := by
  have same : ∀ c ∈ text, (if c = '\\' then '/' else c) = id c := by
    intro c listed
    refine if_neg ?_
    rintro rfl
    exact free listed
  rw [slashed, List.map_congr_left same, List.map_id]

theorem pathOf_web {path : List Char} (plain : ∀ c ∈ path, isPathChar c = true) :
    pathOf true ('/' :: path) = .segments (segmentsOf false path) := by
  have free : '\\' ∉ '/' :: path := by
    intro listed
    rcases List.mem_cons.mp listed with slash | inPath
    · exact absurd slash (by decide)
    · exact (bounds_of_isPathChar (plain _ inPath)).2.1 rfl
  rw [pathOf, if_pos rfl, slashed_eq_self free]
  rfl

theorem bounds_of_mem_place {authority path : List Char}
    (bare : ∀ c ∈ authority, isBare c = true) (plain : ∀ c ∈ path, isPathChar c = true) :
    ∀ c ∈ '/' :: '/' :: (authority ++ '/' :: path), 0x20 < c.toNat ∧ c ≠ '?' ∧ c ≠ '#' := by
  intro c listed
  simp only [List.mem_cons, List.mem_append] at listed
  rcases listed with rfl | rfl | inHost | rfl | inPath
  · decide
  · decide
  · obtain ⟨seen, -, -, others⟩ := bounds_of_isBare (bare c inHost)
    exact ⟨seen, others⟩
  · decide
  · obtain ⟨seen, -, others⟩ := bounds_of_isPathChar (plain c inPath)
    exact ⟨seen, others⟩

/-- What stands between the slashes and the first slash behind them is the authority, and all that
stands behind it is the path. -/
theorem parse?_http {authority path : List Char} {a : Authority} (named : authority ≠ [])
    (bare : ∀ c ∈ authority, isBare c = true) (plain : ∀ c ∈ path, isPathChar c = true)
    (read : authority? "http".toList authority = some a) :
    parse? (String.ofList ("http://".toList ++ authority ++ '/' :: path)) =
      some ⟨"http".toList, a.credentials, some a.host, a.port, .segments (segmentsOf false path),
        none, none⟩ := by
  let place : List Char := '/' :: '/' :: (authority ++ '/' :: path)
  have chars := bounds_of_mem_place bare plain
  have whole : "http://".toList ++ authority ++ '/' :: path = "http:".toList ++ place := by
    simp [place]
  have visible : ∀ c ∈ "http:".toList ++ place, 0x20 < c.toNat := by
    intro c listed
    rcases List.mem_append.mp listed with front | behind
    · have all : ("http:".toList.all fun c => 0x20 < c.toNat) = true := rfl
      exact of_decide_eq_true (List.all_eq_true.mp all c front)
    · exact (chars c behind).1
  have noFragment : cut '#' place = (place, none) := cut_of_not_mem fun listed =>
    (chars _ listed).2.2 rfl
  have noQuery : cut '?' place = (place, none) := cut_of_not_mem fun listed =>
    (chars _ listed).2.1 rfl
  have scheme : splitScheme? ("http:".toList ++ place) = some ("http".toList, place) := rfl
  have noSlash : ∀ c ∈ authority, (!(decide (c = '/') || decide (c = '\\'))) = true := by
    intro c listed
    obtain ⟨-, noSlash, noBackslash, -⟩ := bounds_of_isBare (bare c listed)
    simp [noSlash, noBackslash]
  have slash : (!(decide ('/' = '/') || decide ('/' = '\\'))) = false := rfl
  have behindSlashes : place.dropWhile (fun c => decide (c = '/') || decide (c = '\\')) =
      authority ++ '/' :: path := by
    obtain ⟨first, rest, rfl⟩ := List.exists_cons_of_ne_nil named
    have starts := noSlash first List.mem_cons_self
    simp only [place, List.cons_append]
    rw [List.dropWhile_cons_of_pos rfl, List.dropWhile_cons_of_pos rfl,
      List.dropWhile_cons_of_neg (by simpa using starts)]
  have web : webPort? "http".toList = some 80 := rfl
  have notFile : ("http".toList = "file".toList) = False := by decide
  -- Nothing is cleaned away, and no mark of a fragment or a query is met.
  rw [whole, parse?, String.toList_ofList, cleaned_eq_self visible, scheme]
  simp only [Option.bind_eq_bind, Option.bind_some, noFragment, noQuery, Option.map_none, notFile,
    if_false, web, Option.isSome_some, if_true, behindSlashes, takeWhile_upto noSlash slash,
    dropWhile_upto noSlash slash, read, pathOf_web plain]
  rfl

end Url

namespace HttpEndpoint

variable (e : HttpEndpoint)

/-- The URL of the endpoint with the given segments behind it. -/
def urlOf (segments : List (List Char)) : Url :=
  ⟨"http".toList, none, some e.address, e.portNumber?, .segments segments, none, none⟩

theorem parse?_text {path : List Char} (plain : ∀ c ∈ path, Url.isPathChar c = true) :
    Url.parse? (e.text ++ String.ofList ('/' :: path)) =
      some (e.urlOf (Url.segmentsOf false path)) := by
  have named : e.authority ≠ [] := by simp [authority]
  have parsed := Url.parse?_http named e.authority_bare plain e.authority?_eq
  rw [String.ofList_append] at parsed
  exact parsed

end HttpEndpoint
end FleetWatch
