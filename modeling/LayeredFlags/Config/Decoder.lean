import LayeredFlags.Attempt
import LayeredFlags.Config.Source

/-!
# Decoders

A decoder turns a source into pairs of a name and a value, in the order of the file, and may fail
behind some of them.  The pairs are offered to a receiver one by one; the receiver's own failure
ends this before the decoder's.
-/

namespace LayeredFlags

/-- The pairs of a source, and why decoding failed behind them, if it did. -/
structure Decoded where
  pairs : List (String × String)
  failure : Option FlagError := none

/-- A way to read a source. -/
abbrev ConfigDecoder := Source → Decoded

/-- Offers the pairs to a receiver, in order. -/
def Decoded.feed {σ : Type} (d : Decoded) (receive : String × String → σ → Attempt σ) (s : σ) :
    Attempt σ :=
  (Attempt.each receive d.pairs s).andThen (⟨·, d.failure⟩)

theorem Decoded.feed_preserves {σ : Type} {P : σ → Prop} {d : Decoded}
    {receive : String × String → σ → Attempt σ}
    (hstep : ∀ pair s, P s → P (receive pair s).state) {s : σ} (hs : P s) :
    P (d.feed receive s).state :=
  Attempt.andThen_preserves (Attempt.each_preserves (fun pair _ => hstep pair) hs) fun _ ht => ht

/-- No pairs, for a reason. -/
def Decoded.failed (cause : DecodeError) : Decoded :=
  ⟨[], some (.undecodable cause)⟩

end LayeredFlags
