import Waymark.Character.CharSet

/-!
This module contains the encoded forms of sets of characters: sequences of ranges of bytes, one
range for each byte of an encoded character.
-/

namespace Waymark
namespace Regex

abbrev ByteRanges := List (Nat × Nat)

namespace ByteRanges

def ofNumbers (lead : Nat) : (continuation first last : Nat) → List ByteRanges
  | 0, first, last => [[(lead + first, lead + last)]]
  | n + 1, first, last =>
    let unit := Nat.pow 64 (n + 1)
    let low := first / unit
    let high := last / unit
    let after (head : Nat × Nat) (first last : Nat) : List ByteRanges :=
      (ofNumbers 0x80 n first last).map (head :: ·)
    if low = high then
      after (lead + low, lead + low) (first % unit) (last % unit)
    else
      -- Heads that not all numbers after them belong to are set apart; the others share one form.
      let (start, low) :=
        if first % unit = 0 then ([], low)
        else (after (lead + low, lead + low) (first % unit) (unit - 1), low + 1)
      let (stop, past) :=
        if last % unit = unit - 1 then ([], high + 1)
        else (after (lead + high, lead + high) 0 (last % unit), high)
      let middle :=
        if low < past then after (lead + low, lead + past - 1) 0 (unit - 1) else []
      start ++ middle ++ stop

def lengths : List (Nat × Nat × Nat × Nat) :=
  -- The surrogates, from 0xd800 to 0xdfff, have no encoded form.
  [(0, 0x7f, 0, 0), (0x80, 0x7ff, 1, 0xc0), (0x800, 0xd7ff, 2, 0xe0), (0xe000, 0xffff, 2, 0xe0),
   (0x10000, 0x10ffff, 3, 0xf0)]

def ofRanges (ranges : Ranges) : List ByteRanges :=
  ranges.flatMap fun (first, last) =>
    lengths.flatMap fun (least, greatest, continuation, lead) =>
      if max first least ≤ min last greatest then
        ofNumbers lead continuation (max first least) (min last greatest)
      else
        []

def common : ByteRanges → ByteRanges → Nat
  | x :: a, y :: b => if x = y then common a b + 1 else 0
  | _, _ => 0

def beginnings : List ByteRanges → Nat
  | [] => 0
  | [form] => form.length
  | form :: next :: rest => form.length - common form next + beginnings (next :: rest)

abbrev State := List ((Nat × Nat) × Nat)

def State.share (state : State) (states : List State) : Nat × List State :=
  match states.findIdx? (· == state) with
  | some i => (states.length - i, states)
  | none => (states.length + 1, state :: states)

def automaton : (length : Nat) → List ByteRanges → List State → Nat × List State
  | 0, _, states => (0, states)
  | length + 1, forms, states =>
    let groups := forms.splitBy fun a b => a.head? == b.head?
    let (state, states) := groups.foldl (fun (state, states) group =>
      match group with
      | (head :: tail) :: rest =>
        if tail.isEmpty then
          ((head, 0) :: state, states)
        else
          let (next, states) := automaton length (tail :: rest.map List.tail) states
          ((head, next) :: state, states)
      | _ => (state, states)) (([] : State), states)
    State.share state.reverse states

end ByteRanges

end Regex
end Waymark
