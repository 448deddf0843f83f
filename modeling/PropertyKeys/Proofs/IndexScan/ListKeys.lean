import PropertyKeys.Proofs.IndexScan.Bracketing
import PropertyKeys.Proofs.IndexScan.Groups
import PropertyKeys.Proofs.KeyParts.Shape

/-!
# Scanned and cut list keys

A raw key for a list is cut at its first group of brackets, and the scan for indices reports that
group first. Both look for the brackets on their own, and they find the same ones: the cut fails if
the first group is at fault, there is no index if there is no group, and otherwise the index and the
portion stand where the first reports say.

## Main definitions

* `IndexEvent.opening?` / `IndexEvent.index?`: the place and the range that a report gives.
* `FirstGroup`: what the first group of a raw key is for the scan and for the cut.

## Main results

* `firstGroup_of_indexed`: the scan and the cut see the same first group.
* `split?_agrees_with_events`: what the scan tells about the parts of a raw key for a list.
-/

namespace PropertyKeys

/-- The place at which a group opens, if a report is about that. -/
def IndexEvent.opening? : IndexEvent → Option Nat
  | .opening place => some place
  | .index _ | .unclosed _ | .missing _ | .notInteger _ => none

/-- The range of an index, if a report is that there is one. -/
def IndexEvent.index? : IndexEvent → Option TextRange
  | .index range => some range
  | .opening _ | .unclosed _ | .missing _ | .notInteger _ => none

namespace IndexScan

open Text KeyParts

/-- The first group of a raw key, as the scan reports it and as the raw key is cut at it. -/
inductive FirstGroup (key : Key) (raw : Text) : Prop
  /-- There is no group, and the portion is the whole raw key. -/
  | none (hevents : events key raw = [])
    (hsplit : split? key raw false = some { portion := raw })
  /-- The group is at fault, and there are no parts. -/
  | fault {place : Nat} {event : IndexEvent} {more : List IndexEvent}
    (hevents : events key raw = .opening place :: event :: more)
    (hfault : event.isFault = true) (hsplit : split? key raw false = .none)
  /-- The group holds the index, and the portion precedes it. -/
  | index {place : Nat} {range : TextRange} {more : List IndexEvent} {property? : Option Text}
    (hevents : events key raw = .opening place :: .index range :: more)
    (hsplit : split? key raw false = some
      { portion := dropFinal '.' (takeBytes place raw)
        index? := some (range.slice raw)
        property? })

theorem exists_indexReports_eq (integers : Bool) (place : Nat) {index : Text}
    (hindex : index ≠ []) :
    ∃ more, indexReports integers place index =
      .index ⟨place + 1, place + 1 + byteSize index⟩ :: more := by
  rw [indexReports, if_neg hindex]
  split
  · exact ⟨_, rfl⟩
  · exact ⟨[], rfl⟩

theorem firstGroup_of_indexed {key : Key} (hindexed : key.access = .indexed) (raw : Text) :
    FirstGroup key raw := by
  obtain ⟨bracketing, rfl⟩ := exists_bracketing raw
  have hevents : events key bracketing.text = bracketing.reports (key.access == .indexed) 0 :=
    eventsFrom_text _ 0 bracketing
  have hsplit : split? key bracketing.text false = splitIndexed? key bracketing.text := by
    rw [split?_false, shape?_of_indexed hindexed]
  cases bracketing with
  | plain start hstart =>
    rw [Bracketing.text, splitIndexed?_of_notMem hstart] at hsplit
    exact .none hevents hsplit
  | unclosed lead rest hlead hrest =>
    rw [Bracketing.text, splitIndexed?_append hlead,
      ofBracket?_eq_none (closeBracket?_of_notMem hrest)] at hsplit
    exact .fault hevents rfl hsplit
  | group lead index hlead hindex next =>
    rw [Bracketing.text, splitIndexed?_append hlead] at hsplit
    rw [Bracketing.reports] at hevents
    by_cases hempty : index = []
    · have hnone : closeBracket? (index ++ ']' :: next.text) = none := by
        rw [closeBracket?_append hindex, if_pos hempty]
      rw [ofBracket?_eq_none hnone] at hsplit
      rw [indexReports, if_pos hempty] at hevents
      exact .fault hevents rfl hsplit
    · let raw := lead ++ '[' :: (index ++ ']' :: next.text)
      let range : TextRange := ⟨byteSize lead + 1, byteSize lead + 1 + byteSize index⟩
      have hportion : takeBytes (byteSize lead) raw = lead := takeBytes_append lead _
      have hafter : HasRestAt raw range.start (index ++ ']' :: next.text) :=
        ⟨lead ++ ['['], by simp [raw], byteSize_append lead ['[']⟩
      have hslice : range.slice raw = index := TextRange.slice_eq_of_hasRestAt hafter rfl
      obtain ⟨more, hmore⟩ := exists_indexReports_eq (key.access == .indexed) (byteSize lead) hempty
      rw [Nat.zero_add, hmore] at hevents
      have hcut : ofBracket? key (dropFinal '.' lead) (index ++ ']' :: next.text) =
          some { portion := dropFinal '.' (takeBytes (byteSize lead) raw)
                 index? := some (range.slice raw)
                 property? := propertyAfter? key next.text } := by
        rw [hportion, hslice]
        exact ofBracket?_append hindex hempty key _ next.text
      exact .index hevents (hsplit.trans hcut)

/-- **The scan and the cut agree on list keys.** A raw key for a list has no parts exactly if the
second report of the scan is a fault, and its parts have no index exactly if there is no report.
Otherwise the index stands in the first range that is reported, and the portion is what precedes the
first place, without one dot at its end. -/
theorem split?_agrees_with_events (key : Key) (raw : Text) (hindexed : key.access = .indexed) :
    (split? key raw false = none ↔
      ∃ event, (events key raw)[1]? = some event ∧ event.isFault = true) ∧
    ((∃ parts, split? key raw false = some parts ∧ parts.index? = none) ↔ events key raw = []) ∧
    ∀ parts index, split? key raw false = some parts → parts.index? = some index →
      ∃ place range, (events key raw).findSome? IndexEvent.opening? = some place ∧
        (events key raw).findSome? IndexEvent.index? = some range ∧
        index = range.slice raw ∧ parts.portion = dropFinal '.' (takeBytes place raw) := by
  cases firstGroup_of_indexed hindexed raw with
  | none hevents hsplit =>
    refine ⟨by simp [hevents, hsplit], by simp [hevents, hsplit], ?_⟩
    intro parts index hparts hindex
    obtain rfl := Option.some.inj (hsplit.symm.trans hparts)
    exact absurd hindex (by simp)
  | fault hevents hfault hsplit =>
    refine ⟨by simp [hevents, hsplit, hfault], by simp [hevents, hsplit], ?_⟩
    intro parts index hparts
    exact absurd (hsplit.symm.trans hparts) (by simp)
  | index hevents hsplit =>
    refine ⟨by simp [hevents, hsplit, IndexEvent.isFault], by simp [hevents, hsplit], ?_⟩
    intro parts index hparts hindex
    obtain rfl := Option.some.inj (hsplit.symm.trans hparts)
    obtain rfl := Option.some.inj hindex
    rw [hevents]
    exact ⟨_, _, rfl, rfl, rfl, rfl⟩

/-- The first of two indices, behind a letter of two bytes. -/
theorem split?_agrees_with_events_twoIndices :
    ∃ place range,
      (events (.textList "é".toList) "é.[10][x]".toList).findSome? IndexEvent.opening? =
        some place ∧
      (events (.textList "é".toList) "é.[10][x]".toList).findSome? IndexEvent.index? =
        some range ∧
      "10".toList = range.slice "é.[10][x]".toList ∧
      "é".toList = dropFinal '.' (takeBytes place "é.[10][x]".toList) := by
  obtain ⟨-, -, hindex⟩ := split?_agrees_with_events (.textList "é".toList) "é.[10][x]".toList
    (Key.access_textList _)
  exact hindex { portion := "é".toList, index? := some "10".toList } _ (by decide) rfl

end IndexScan

end PropertyKeys
