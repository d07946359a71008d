import Axionvera.Client.EventFetching
import Mathlib.Data.List.Perm.Subperm

/-! Fetching a range ends: halving narrows the range, and a loop sees each paging token once. -/

namespace Axionvera.Client.ContractEvents

open Axionvera.Errors
open Axionvera.Http

variable {ν : Type}

/-- Every page continues at one of the listed tokens, or not at all. -/
def TokensFrom (client : EventsClient ν) (tokens : List String) : Prop :=
  ∀ history request response token,
    client.getEvents history request = .ok response
    → nextToken response = some token
    → token ∈ tokens

/-- Fuel for a range that is `width` ledgers wider than a single one, when a loop can still
see `unseen` of `tokens` many tokens: each of its parts starts with all of them.
-/
def fuelBound (tokens width unseen : Nat) : Nat :=
  width * (tokens + 2) + unseen + 1

/-- Halving leaves enough fuel for either part. -/
theorem fuelBound_narrow {tokens width narrower unseen fuel : Nat} (less : narrower < width)
    (enough : fuelBound tokens width unseen ≤ fuel + 1)
    : fuelBound tokens narrower tokens ≤ fuel := by
  unfold fuelBound at *
  have grown : (narrower + 1) * (tokens + 2) ≤ width * (tokens + 2) :=
    Nat.mul_le_mul_right _ less
  rw [Nat.succ_mul] at grown
  omega

/-- A duplicate-free list of listed tokens is no longer than the list. -/
theorem length_le_of_seen {tokens seen : List String} (unique : seen.Nodup)
    (listed : seen ⊆ tokens)
    : seen.length ≤ tokens.length :=
  (List.subperm_of_subset unique listed).length_le

/-- With enough fuel the loop comes to an outcome. Witness: induction on the fuel. A turn uses
up one unseen token, and halving starts over on a narrower range.
-/
theorem fetchLoop_total {client : EventsClient ν} {tokens : List String}
    (finite : TokensFrom client tokens) (fuel : Nat) (params : RangeParams)
    (cursor : Option String) (events : List (ContractEventResult ν)) (seen : List String)
    (log : List (Exchange ν)) (unique : seen.Nodup) (listed : seen ⊆ tokens)
    (enough
      : fuelBound tokens.length (params.endLedger - params.startLedger)
          (tokens.length - seen.length)
        ≤ fuel)
    : ∃ outcome, fetchLoop client fuel params cursor events seen log = some outcome := by
  induction fuel generalizing params cursor events seen log with
  | zero => simp [fuelBound] at enough
  | succ fuel ih =>
      have asked := callGetEvents_asked client (buildGetEventsRequest params cursor) log
      simp only [fetchLoop]
      generalize callGetEvents client (buildGetEventsRequest params cursor) log = call at asked ⊢
      obtain ⟨called, world, waits⟩ := call
      simp only at asked ⊢
      cases called with
      | ok response =>
          simp only
          split
          · exact ⟨_, rfl⟩
          · rename_i token morePages
            split
            · exact ⟨_, rfl⟩
            · rename_i continues
              have fresh : token ∉ seen := fun repeated => continues (by simp [repeated])
              obtain ⟨_, history, _, _, answered⟩ := asked.resolved
              -- A fresh token is one of the finitely many, so one fewer is left unseen.
              have known := finite history _ response token answered morePages
              have longer := length_le_of_seen (List.nodup_cons.mpr ⟨fresh, unique⟩)
                (List.cons_subset.mpr ⟨known, listed⟩)
              refine ih params (some token) _ (token :: seen) world
                (List.nodup_cons.mpr ⟨fresh, unique⟩) (List.cons_subset.mpr ⟨known, listed⟩) ?_
              simp only [List.length_cons, fuelBound] at *
              omega
      | error error =>
          simp only
          split
          · rename_i splits
            simp only [Bool.and_eq_true, decide_eq_true_eq] at splits
            have between := midpoint_between splits.2
            -- Each half starts over with no seen tokens, which its smaller width pays for.
            have lowerNarrow
                : midpoint params.startLedger params.endLedger - params.startLedger
                  < params.endLedger - params.startLedger := by omega
            have upperNarrow
                : params.endLedger - (midpoint params.startLedger params.endLedger + 1)
                  < params.endLedger - params.startLedger := by omega
            obtain ⟨⟨lower, middle⟩, lowerRun⟩ := ih (params.lower cursor) cursor [] [] world
              List.nodup_nil (List.nil_subset _) (fuelBound_narrow lowerNarrow enough)
            rw [RangeParams.lower] at lowerRun
            simp only [lowerRun]
            cases lower with
            | error thrown => exact ⟨_, rfl⟩
            | ok firstHalf =>
                simp only
                split
                · exact ⟨_, rfl⟩
                · obtain ⟨⟨upper, last⟩, upperRun⟩ := ih params.upper none [] [] middle
                    List.nodup_nil (List.nil_subset _) (fuelBound_narrow upperNarrow enough)
                  rw [RangeParams.upper] at upperRun
                  simp only [upperRun]
                  cases upper <;> exact ⟨_, rfl⟩
          · exact ⟨_, rfl⟩

/-- More fuel does not change the outcome, by induction on the fuel that sufficed. -/
theorem fetchLoop_mono {client : EventsClient ν} {fuel more : Nat} (le : fuel ≤ more)
    {params : RangeParams} {cursor : Option String} {events : List (ContractEventResult ν)}
    {seen : List String} {log : List (Exchange ν)} {outcome : FetchOutcome ν}
    (evaluated : fetchLoop client fuel params cursor events seen log = some outcome)
    : fetchLoop client more params cursor events seen log = some outcome := by
  induction fuel generalizing more params cursor events seen log outcome with
  | zero => simp [fetchLoop] at evaluated
  | succ fuel ih =>
      obtain ⟨more, rfl⟩ : ∃ extra, more = extra + 1 := ⟨more - 1, by omega⟩
      have le : fuel ≤ more := Nat.le_of_succ_le_succ le
      simp only [fetchLoop] at evaluated ⊢
      generalize callGetEvents client (buildGetEventsRequest params cursor) log = call
        at evaluated ⊢
      obtain ⟨called, world, waits⟩ := call
      simp only at evaluated ⊢
      cases called with
      | ok response =>
          simp only at evaluated ⊢
          cases morePages : extractPagingToken response (response.events.getD []) with
          | none => simpa only [morePages] using evaluated
          | some token =>
              simp only [morePages] at evaluated ⊢
              split at evaluated
              · rename_i stops
                simpa only [stops, ↓reduceIte] using evaluated
              · rename_i continues
                rw [if_neg continues]
                exact ih le evaluated
      | error error =>
          simp only at evaluated ⊢
          split at evaluated
          · rename_i splits
            rw [if_pos splits]
            split at evaluated
            · rename_i firstHalf middle lower
              simp only [ih le lower]
              split at evaluated
              · rename_i onePage
                rw [if_pos onePage]
                exact evaluated
              · rename_i fetchAll
                rw [if_neg fetchAll]
                split at evaluated
                · rename_i secondHalf last upper
                  simp only [ih le upper]
                  exact evaluated
                · rename_i upperStopped
                  obtain ⟨out, last⟩ := outcome
                  cases out with
                  | ok result => exact (upperStopped _ _ evaluated).elim
                  | error thrown => simp only [ih le evaluated]
            · rename_i lowerStopped
              obtain ⟨out, last⟩ := outcome
              cases out with
              | ok result => exact (lowerStopped _ _ evaluated).elim
              | error thrown => simp only [ih le evaluated]
          · rename_i rethrown
            rw [if_neg rethrown]
            exact evaluated

end Axionvera.Client.ContractEvents
