import Mathlib.Data.List.Nodup
import PinnedRun.Proofs.Text.Trimming
import PinnedRun.Telemetry.Lifecycle

/-!
# The origin that telemetry reports

The attributes of the origin are read from a list of pieces `key=value` with commas between them.

* `Defines piece key value` : the piece gives the key this value, that is, key and value stand on the
  two sides of the first equals sign with blanks around them. It does not speak of how a piece is
  read, and `ofPiece?_eq_some_iff` says that a piece is read so;
* `LastDefines segments key value` : the last of the pieces that give the key a value gives it this
  one;
* `Writes segments pairs` : the pieces are the pairs written down with blanks around keys and values,
  and with other pieces without equals sign between them.

`resource_spec` says what the origin is for every list: of each key the last value, the configured
name of the service if no piece gives another, and nothing else. So pairs with keys of their own
that are written down are read back.
-/

namespace PinnedRun.Telemetry

open PinnedRun.Text

namespace Attributes

/-- A piece gives a key a value: they stand on the two sides of the first equals sign, with blanks
around them. -/
def Defines (piece : List Char) (key value : String) : Prop :=
  ∃ left right, piece = left ++ '=' :: right ∧ '=' ∉ left ∧
    (Surrounded isBlank key.toList left ∧ IsTrimmed isBlank key.toList) ∧
    (Surrounded isBlank value.toList right ∧ IsTrimmed isBlank value.toList)

/-- The last of the pieces that give a key a value gives it this one. -/
def LastDefines (segments : List (List Char)) (key value : String) : Prop :=
  ∃ before piece after, segments = before ++ piece :: after ∧ Defines piece key value ∧
    ∀ q ∈ after, ∀ other, ¬Defines q key other

/-- Pieces that write pairs down. -/
inductive Writes : List (List Char) → List (String × String) → Prop where
  | nil : Writes [] []
  /-- A piece without equals sign stands anywhere. -/
  | other {piece : List Char} {segments : List (List Char)} {pairs : List (String × String)}
      (free : '=' ∉ piece ∧ ',' ∉ piece) (rest : Writes segments pairs) :
      Writes (piece :: segments) pairs
  /-- A pair is written with blanks around its key and around its value. -/
  | pair {key value : String} {left right : List Char} {segments : List (List Char)}
      {pairs : List (String × String)}
      (keyFree : '=' ∉ key.toList ∧ ',' ∉ key.toList) (valueFree : ',' ∉ value.toList)
      (keyTrimmed : IsTrimmed isBlank key.toList) (valueTrimmed : IsTrimmed isBlank value.toList)
      (aroundKey : Surrounded isBlank key.toList left)
      (aroundValue : Surrounded isBlank value.toList right) (rest : Writes segments pairs) :
      Writes ((left ++ '=' :: right) :: segments) ((key, value) :: pairs)

/-! ### One piece -/

variable {piece : List Char} {segments : List (List Char)} {key value : String}

theorem ofPiece?_eq_some_iff : ofPiece? piece = some (key, value) ↔ Defines piece key value := by
  have htext : ∀ cs (text : String), String.ofList (trim isBlank cs) = text ↔
      Surrounded isBlank text.toList cs ∧ IsTrimmed isBlank text.toList := by
    intro cs text
    rw [← trim_eq_iff]
    exact ⟨fun h => by rw [← h, String.toList_ofList], fun h => by rw [h, String.ofList_toList]⟩
  constructor
  · intro h
    obtain ⟨⟨left, right⟩, hcut, hpair⟩ := Option.map_eq_some_iff.mp h
    obtain ⟨hk, hv⟩ := Prod.mk.inj hpair
    obtain ⟨hpiece, hfree⟩ := cutFirst?_eq_some_iff.mp hcut
    exact ⟨left, right, hpiece, hfree, (htext _ _).mp hk, (htext _ _).mp hv⟩
  · rintro ⟨left, right, rfl, hfree, hk, hv⟩
    have hk := (htext left key).mpr hk
    have hv := (htext right value).mpr hv
    rw [ofPiece?, cutFirst?_append_cons hfree, Option.map_some]
    exact congrArg some (Prod.ext hk hv)

theorem ofPiece?_eq_none_iff : ofPiece? piece = none ↔ '=' ∉ piece := by
  rw [ofPiece?, Option.map_eq_none_iff, cutFirst?_eq_none_iff]

theorem any_ofPiece?_iff :
    (ofPiece? piece).any (·.1 = key) = true ↔ ∃ other, Defines piece key other := by
  rw [Option.any_eq_true_iff_get]
  constructor
  · rintro ⟨hsome, hkey⟩
    refine ⟨((ofPiece? piece).get hsome).2, ofPiece?_eq_some_iff.mp ?_⟩
    rw [← of_decide_eq_true hkey, Option.some_get]
  · rintro ⟨other, h⟩
    have h := ofPiece?_eq_some_iff.mpr h
    exact ⟨by rw [h]; rfl, by simp [h]⟩

/-! ### All pieces -/

/-- The pairs in a list are those of the pieces that it is the join of. -/
theorem pairsOfCommaList_join (hfree : ∀ p ∈ segments, ',' ∉ p) :
    pairsOfCommaList (String.ofList (joinPieces ',' segments)) = segments.filterMap ofPiece? := by
  rw [pairsOfCommaList, String.toList_ofList]
  cases segments with
  | nil => rfl
  | cons p ps => rw [pieces_joinPieces (List.cons_ne_nil p ps) hfree]

theorem get?_reverse_pairs (segments : List (List Char)) (key : String) :
    get? (segments.filterMap ofPiece?).reverse key =
      ((segments.reverse.find? fun p => (ofPiece? p).any (·.1 = key)).bind ofPiece?).map (·.2) := by
  rw [get?, ← List.filterMap_reverse, List.find?_filterMap]

theorem get?_reverse_pairs_eq_some_iff :
    get? (segments.filterMap ofPiece?).reverse key = some value ↔
      LastDefines segments key value := by
  rw [get?_reverse_pairs, Option.map_eq_some_iff]
  constructor
  · rintro ⟨⟨k, v⟩, hpair, rfl⟩
    obtain ⟨piece, hfind, hpiece⟩ := Option.bind_eq_some_iff.mp hpair
    obtain ⟨hkey, after, before, hsegments, hafter⟩ := List.find?_eq_some_iff_append.mp hfind
    obtain rfl : k = key := by simpa [hpiece] using hkey
    refine ⟨before.reverse, piece, after.reverse, ?_, ofPiece?_eq_some_iff.mp hpiece, ?_⟩
    · rw [← List.reverse_reverse segments, hsegments]
      simp
    · intro q hq other hd
      have := hafter q (List.mem_reverse.mp hq)
      rw [any_ofPiece?_iff.mpr ⟨other, hd⟩] at this
      cases this
  · rintro ⟨before, piece, after, rfl, hd, hafter⟩
    refine ⟨(key, value), Option.bind_eq_some_iff.mpr ⟨piece, ?_, ofPiece?_eq_some_iff.mpr hd⟩, rfl⟩
    refine List.find?_eq_some_iff_append.mpr
      ⟨any_ofPiece?_iff.mpr ⟨value, hd⟩, after.reverse, before.reverse, by simp, fun q hq => ?_⟩
    rw [Bool.not_eq_true', ← Bool.not_eq_true, any_ofPiece?_iff]
    rintro ⟨other, hq'⟩
    exact hafter q (List.mem_reverse.mp hq) other hq'

theorem get?_reverse_pairs_eq_none_iff :
    get? (segments.filterMap ofPiece?).reverse key = none ↔
      ∀ p ∈ segments, ∀ other, ¬Defines p key other := by
  rw [get?, Option.map_eq_none_iff, List.find?_eq_none]
  simp only [List.mem_reverse, List.mem_filterMap, decide_eq_true_eq]
  constructor
  · intro h p hp other hd
    exact h (key, other) ⟨p, hp, ofPiece?_eq_some_iff.mpr hd⟩ rfl
  · rintro h ⟨k, v⟩ ⟨p, hp, hpair⟩ rfl
    exact h p hp v (ofPiece?_eq_some_iff.mp hpair)

theorem Writes.comma_not_mem {pairs : List (String × String)} (h : Writes segments pairs) :
    ∀ p ∈ segments, ',' ∉ p := by
  induction h with
  | nil => nofun
  | other free _ ih => exact List.forall_mem_cons.mpr ⟨free.2, ih⟩
  | @pair _ _ left right _ _ keyFree valueFree _ _ aroundKey aroundValue _ ih =>
    have hleft : ',' ∉ left := aroundKey.not_mem (by decide) keyFree.2
    have hright : ',' ∉ right := aroundValue.not_mem (by decide) valueFree
    refine List.forall_mem_cons.mpr ⟨?_, ih⟩
    simp [hleft, hright]

/-- What is written down is read back. -/
theorem Writes.filterMap_eq {pairs : List (String × String)} (h : Writes segments pairs) :
    segments.filterMap ofPiece? = pairs := by
  induction h with
  | nil => rfl
  | other free _ ih => rw [List.filterMap_cons_none (ofPiece?_eq_none_iff.mpr free.1), ih]
  | @pair key value left right _ _ keyFree _ keyTrimmed valueTrimmed aroundKey aroundValue _ ih =>
    have hleft : '=' ∉ left := aroundKey.not_mem (by decide) keyFree.1
    have hd : Defines (left ++ '=' :: right) key value :=
      ⟨left, right, rfl, hleft, ⟨aroundKey, keyTrimmed⟩, ⟨aroundValue, valueTrimmed⟩⟩
    rw [List.filterMap_cons_some (ofPiece?_eq_some_iff.mpr hd), ih]

theorem mem_iff_get?_eq_some {α : Type} {pairs : List (String × α)} (h : Keyed.Unique pairs)
    {e : String × α} : e ∈ pairs ↔ get? pairs e.1 = some e.2 := by
  rw [get?, Option.map_eq_some_iff]
  constructor
  · exact fun he => ⟨e, (Keyed.find?_eq_some_iff h).mpr ⟨he, rfl⟩, rfl⟩
  · rintro ⟨e', hfind, hvalue⟩
    obtain ⟨he', hkey⟩ := (Keyed.find?_eq_some_iff h).mp hfind
    rwa [← Prod.ext hkey hvalue]

/-- Attributes that read the same are the same in another order. -/
theorem perm_of_get?_eq {α : Type} {pairs more : List (String × α)} (h : Keyed.Unique pairs)
    (h' : Keyed.Unique more) (hget : ∀ name, get? pairs name = get? more name) :
    pairs.Perm more := by
  refine (List.perm_ext_iff_of_nodup (h.of_map _) (h'.of_map _)).mpr fun e => ?_
  rw [mem_iff_get?_eq_some h, mem_iff_get?_eq_some h', hget]

/-- Pairs with keys of their own take the place of an attribute with one of their keys, and leave
another where it is. -/
theorem setAll_singleton_perm {α : Type} {pairs : List (String × α)} (h : Keyed.Unique pairs)
    (name : String) (a : α) :
    (setAll [(name, a)] pairs).Perm
      (pairs ++ if name ∈ pairs.map (·.1) then [] else [(name, a)]) := by
  have hread : ∀ other, get? (setAll [(name, a)] pairs) other =
      (get? pairs other).or (if name = other then some a else none) := by
    intro other
    have hrev : get? pairs.reverse other = get? pairs other :=
      congrArg _ (Keyed.find?_perm h pairs.reverse_perm.symm).symm
    rw [get?_setAll, hrev, get?_cons]
    rfl
  have hset : Keyed.Unique (setAll [(name, a)] pairs) :=
    unique_setAll (Keyed.unique_singleton (name, a)) pairs
  by_cases hm : name ∈ pairs.map (·.1)
  · rw [if_pos hm, List.append_nil]
    refine perm_of_get?_eq hset h fun other => ?_
    rw [hread]
    by_cases ho : name = other
    · obtain ⟨e, he, rfl⟩ := List.mem_map.mp hm
      rw [← ho, (mem_iff_get?_eq_some h).mp he]
      rfl
    · rw [if_neg ho, Option.or_none]
  · rw [if_neg hm]
    have hmore : Keyed.Unique (pairs ++ [(name, a)]) := by
      rw [Keyed.Unique, List.map_append, List.nodup_append']
      exact ⟨h, List.nodup_singleton name, List.disjoint_singleton.mpr hm⟩
    refine perm_of_get?_eq hset hmore fun other => ?_
    rw [hread, get?_append, get?_cons]
    rfl

end Attributes

open Attributes

/-- **The origin is the last-wins reading of the list.** For every list, that is, for all pieces
without comma that it is the join of: a key has the value that the last piece that gives it one
gives it, `service.name` has the configured name if no piece gives it another, and nothing else is in
there; a piece without equals sign has no effect wherever it stands; and pairs with keys of their
own that are written down are read back, with the configured name of the service beside them unless
they hold another. -/
theorem resource_spec (s : TelemetrySettings) (segments : List (List Char))
    (hfree : ∀ p ∈ segments, ',' ∉ p)
    (hlist : s.resourceAttributes.getD "" = String.ofList (joinPieces ',' segments)) :
    Keyed.Unique (resource s) ∧
    (∀ key value, (resource s).get? key = some value ↔
      LastDefines segments key value ∨
        key = "service.name" ∧ value = s.serviceName ∧
          ∀ p ∈ segments, ∀ other, ¬Defines p key other) ∧
    (∀ before piece after, segments = before ++ piece :: after → '=' ∉ piece →
      resource { s with
        resourceAttributes := some (String.ofList (joinPieces ',' (before ++ after))) } =
        resource s) ∧
    ∀ written pairs, Writes written pairs → Keyed.Unique pairs →
      (resource { s with
        resourceAttributes := some (String.ofList (joinPieces ',' written)) }).Perm
        (pairs ++
          if "service.name" ∈ pairs.map (·.1) then [] else [("service.name", s.serviceName)]) := by
  have hread : ∀ (s : TelemetrySettings) ps, (∀ p ∈ ps, ',' ∉ p) →
      s.resourceAttributes.getD "" = String.ofList (joinPieces ',' ps) →
      resource s = setAll [("service.name", s.serviceName)] (ps.filterMap ofPiece?) := by
    intro s ps hps hs
    rw [resource, hs, ofCommaList, pairsOfCommaList_join hps]
  have hresource := hread s segments hfree hlist
  refine ⟨?_, fun key value => ?_, ?_, fun written pairs hwrites hunique => ?_⟩
  · rw [hresource]
    exact unique_setAll (Keyed.unique_singleton _) _
  · rw [hresource, get?_setAll, Option.or_eq_some_iff, get?_reverse_pairs_eq_some_iff,
      get?_reverse_pairs_eq_none_iff, get?_cons]
    by_cases hk : "service.name" = key
    · simp [hk, and_comm, eq_comm]
    · simp [hk, Ne.symm hk, get?]
  · rintro before piece after rfl hpiece
    have hrest : ∀ p ∈ before ++ after, ',' ∉ p := fun p hp => hfree p (by
      simp only [List.mem_append, List.mem_cons] at hp ⊢
      tauto)
    rw [hresource, hread _ (before ++ after) hrest rfl, List.filterMap_append,
      List.filterMap_append, List.filterMap_cons_none (ofPiece?_eq_none_iff.mpr hpiece)]
  · rw [hread _ written hwrites.comma_not_mem rfl, hwrites.filterMap_eq]
    exact setAll_singleton_perm hunique _ _

/-- A list that gives a key a value twice, the second time with blanks and an equals sign in it. -/
theorem resource_team_twice :
    (resource { resourceAttributes := some "team=core,junk, team = a=b\n" }).get? "team" =
        some "a=b" ∧
      (resource { resourceAttributes := some "junk, team = a=b\n" }).Perm
        [("team", "a=b"), ("service.name", "toolchain-runner")] := by
  let piece := " team = a=b\n".toList
  obtain ⟨hkey, hkeyTrimmed⟩ := trim_eq_iff.mp
    (show trim isBlank " team ".toList = "team".toList by decide)
  obtain ⟨hvalue, hvalueTrimmed⟩ := trim_eq_iff.mp
    (show trim isBlank " a=b\n".toList = "a=b".toList by decide)
  have hlast : LastDefines ["team=core".toList, "junk".toList, piece] "team" "a=b" :=
    ⟨["team=core".toList, "junk".toList], piece, [], rfl,
      ⟨" team ".toList, " a=b\n".toList, rfl, by decide, ⟨hkey, hkeyTrimmed⟩, hvalue, hvalueTrimmed⟩,
      nofun⟩
  have hwrites : Writes ["junk".toList, piece] [("team", "a=b")] :=
    .other (by decide) (.pair (by decide) (by decide) hkeyTrimmed hvalueTrimmed hkey hvalue .nil)
  have hspec := resource_spec { resourceAttributes := some "team=core,junk, team = a=b\n" }
    ["team=core".toList, "junk".toList, piece] (by decide) rfl
  have hjoin : String.ofList (joinPieces ',' ["junk".toList, piece]) = "junk, team = a=b\n" := by
    decide
  refine ⟨(hspec.2.1 "team" "a=b").mpr (.inl hlast), ?_⟩
  rw [← hjoin]
  exact hspec.2.2.2 _ _ hwrites (Keyed.unique_singleton _)

end PinnedRun.Telemetry
