import TokenGrammar.Arithmetic
import TokenGrammar.Element.Json
import TokenGrammar.Parse
import TokenGrammar.Settings
import TokenGrammar.Proofs.Grammar.Outcomes
import TokenGrammar.Proofs.Grammar.Rewriting
import TokenGrammar.Proofs.Grammar.Advance
import TokenGrammar.Proofs.Grammar.Rollback
import TokenGrammar.Proofs.Grammar.Finality
import TokenGrammar.Proofs.Grammar.CutRemoval
import TokenGrammar.Proofs.Grammar.Leaves
import TokenGrammar.Proofs.Grammar.Adequacy
import TokenGrammar.Proofs.ParseState.Commitment
import TokenGrammar.Proofs.Tokenizer.Cache
import TokenGrammar.Proofs.Text.Slices
import TokenGrammar.Proofs.Tokenizer.Gaps
import TokenGrammar.Proofs.Tokenizer.Lossless
import TokenGrammar.Proofs.Grammar.Frame
import TokenGrammar.Proofs.Grammar.Lockstep
import TokenGrammar.Proofs.Grammar.NodeErasure
import TokenGrammar.Proofs.Grammar.SpentCut
import TokenGrammar.Proofs.Regex.Reading
import TokenGrammar.Proofs.Tokenizer.Merging
import TokenGrammar.Proofs.Tokenizer.Literals
import TokenGrammar.Proofs.Regex.Size
import TokenGrammar.Proofs.Grammar.NamesAhead
import TokenGrammar.Proofs.Tokenizer.Registry
import TokenGrammar.Proofs.Grammar.Consumption
import TokenGrammar.Proofs.Grammar.Evaluations
import TokenGrammar.Proofs.Grammar.Termination
import TokenGrammar.Proofs.Grammar.NodeClosing
import TokenGrammar.Proofs.Regex.Enclosing
import TokenGrammar.Proofs.Tokenizer.Acceptance
import TokenGrammar.Proofs.Tokenizer.Attribution
import TokenGrammar.Proofs.Tokenizer.BlankMatches
import TokenGrammar.Proofs.Settings.Construction
import TokenGrammar.Proofs.Settings.RoundTrip
import TokenGrammar.Proofs.Tokenizer.Handlers
import TokenGrammar.Proofs.Grammar.Progress
import TokenGrammar.Proofs.Grammar.Regrouping
import TokenGrammar.Proofs.Grammar.Repetition
import TokenGrammar.Proofs.Grammar.NestedLists
import TokenGrammar.Proofs.Parse.CutOffset
import TokenGrammar.Proofs.Element.Rendering
import TokenGrammar.Proofs.Element.Dump
import TokenGrammar.Proofs.Settings.KnownMembers
