import Budlum.BudFormat.Container
import Budlum.CrossDomain.Domains

/-!
# The raw `.bud` pipeline

`store_with_min` guesses the format of a file, cuts it and writes the container;
`restore` reads it back. The guess only moves the cuts: no byte string is lost.
-/

namespace Budlum.BudFormat

def trimStart (text : List Char) : List Char := text.dropWhile isWhitespace

variable (D : Deps)

def detect (data : Bytes) : FormatCodec :=
  if data = [] then .unknown
  else
    let text := D.fromUtf8Lossy data
    let first := (trimStart text).head?
    let sample := data.take 4096
    -- `lines` also drops a `\r` before the newline: it is no digit, and comes last
    let line := (trimStart (text.takeWhile (· ≠ '\n'))).flatMap String.utf8EncodeChar
    if first = some '[' ∨ first = some '{' then .json
    else if 44 ∈ sample ∧ 10 ∈ sample then .csv
    else if 4 ≤ line.length ∧ (line.take 4).all fun b => 48 ≤ b ∧ b ≤ 57 then .log
    else if 10 ∈ sample then .text
    else if data.all fun b => (0x20 ≤ b ∧ b < 0x7F) ∨ b = 10 ∨ b = 9 ∨ b = 13 then .text
    else .unknown

def FormatCodec.structuralKind : FormatCodec → StructuralKind
  | .json => .json
  | .csv => .csv
  | .log => .log
  | .text => .text
  | _ => .binary

def storeWithMin (data : Bytes) (minChunk : ℕ) : Option Bytes := do
  let codec := detect D data
  let chunks := structuralSplitCompact D codec.structuralKind data minChunk
  let file ← BudV2File.new D codec chunks
  return file.encode

def restore (bytes : Bytes) : Option Bytes := do
  let file ← BudV2File.decode D bytes
  file.restoreOriginal

/-- What was stored comes back byte for byte, whatever the bytes and the threshold. -/
theorem restore_of_storeWithMin {data container : Bytes} {minChunk : ℕ}
    (h : storeWithMin D data minChunk = some container) : restore D container = some data := by
  obtain ⟨file, hnew, hencode⟩ := Option.bind_eq_some_iff.mp h
  obtain ⟨hdecode, hraw, hchunks⟩ := decode_of_new hnew
  cases hencode
  rw [restore, hdecode, Option.bind_eq_bind, Option.bind_some, restoreOriginal_raw hraw, hchunks,
    join_structuralSplitCompact]

/-- Bytes that are no UTF-8, merged and stored with a plain digest. -/
theorem restore_two_lines :
    let plain : Deps := ⟨fun _ => List.replicate 32 0, fun _ => rfl, fun _ => [], some, some⟩
    let data : Bytes := [0xFF, 44, 10, 0xC0, 10]
    (storeWithMin plain data 2).isSome ∧
      storeWithMin plain data 2 >>= restore plain = some data := by
  intro plain data
  have hsome : (storeWithMin plain data 2).isSome := by decide
  obtain ⟨container, hstore⟩ := Option.isSome_iff_exists.mp hsome
  exact ⟨hsome, by rw [hstore]; exact restore_of_storeWithMin plain hstore⟩

end Budlum.BudFormat
