/-
Module: BoundedIngest.Sizing.Sampler
Purpose: Which entries are measured.
Main exports:
  Sampler, Sampler.ofConfig, Sampler.isDue, Sampler.draw, measuredSize, Sampler.offerAll
-/
import BoundedIngest.Config.Basic

namespace BoundedIngest

/-- Every entry offered to a queue draws a sequence number.  The first `warmup`
entries are measured, and after them one entry in `rate`, the first of each such
group. -/
structure Sampler where
  warmup : UInt64
  rate : UInt64
  /-- How many sequence numbers were drawn; the next number to draw. -/
  seen : UInt64 := 0
deriving Repr, DecidableEq, Inhabited

namespace Sampler

/-- The sampler for the given settings; a rate of zero counts as one. -/
def ofConfig (config : ExecutorConfig) : Sampler :=
  { warmup := config.sampleWarmup, rate := max config.sampleRate 1 }

/-- Is the entry with this sequence number measured? -/
def isDue (sampler : Sampler) (number : UInt64) : Bool :=
  number < sampler.warmup || (number - sampler.warmup) % sampler.rate == 0

/-- Draw the next sequence number and say whether its entry is measured. -/
def draw (sampler : Sampler) : Bool × Sampler :=
  (sampler.isDue sampler.seen, { sampler with seen := sampler.seen + 1 })

end Sampler

/-- An entry of estimated size zero counts as one byte. -/
def measuredSize (estimate : UInt64) : UInt64 := max estimate 1

namespace Sampler

/-- Offer an entry of the given estimated size: its measured size, if it is due. -/
def offer (sampler : Sampler) (estimate : UInt64) : Option UInt64 × Sampler :=
  let (due, drawn) := sampler.draw
  (if due then some (measuredSize estimate) else none, drawn)

/-- Offer entries one after the other. -/
def offerAll (sampler : Sampler) : List UInt64 → List (Option UInt64) × Sampler
  | [] => ([], sampler)
  | estimate :: rest =>
      let (sample, drawn) := sampler.offer estimate
      let (samples, final) := drawn.offerAll rest
      (sample :: samples, final)

end Sampler

end BoundedIngest
