import Colloquy.Conversation
import Colloquy.Proofs.Evaluation.Correspondence
import Colloquy.Proofs.Evaluation.Termination
import Colloquy.Proofs.Finite
import Colloquy.Proofs.Learning.Ownership
import Colloquy.Proofs.Markup.Marks
import Colloquy.Proofs.Markup.NormalForm
import Colloquy.Proofs.Markup.Pairing
import Colloquy.Proofs.Markup.Remnants
import Colloquy.Proofs.Markup.RoundTrip
import Colloquy.Proofs.Pattern.Alignment
import Colloquy.Proofs.Pattern.Cut
import Colloquy.Proofs.Rule.Activation
import Colloquy.Proofs.Rule.Index
import Colloquy.Proofs.Selection.Agreement
import Colloquy.Proofs.Selection.Exhaustive
import Colloquy.Proofs.Text.Words
import Colloquy.Proofs.Utterance
import Colloquy.Proofs.Markup.Strictness
import Colloquy.Proofs.Markup.Rereading
import Colloquy.Proofs.Scope
import Colloquy.Proofs.Evaluation.Memory
import Colloquy.Proofs.Conversation.Transparency
import Colloquy.Proofs.Selection.Ranking
import Colloquy.Proofs.Selection.Renumbering
import Colloquy.Proofs.Learning.Neutrality
import Colloquy.Proofs.Pattern.Layout
import Colloquy.Proofs.Admission.Admitted
import Colloquy.Proofs.Admission.SelfReferences
import Colloquy.Proofs.Admission.Wildcards
import Colloquy.Proofs.Admission.Danger
import Colloquy.Proofs.Admission.Literals
import Colloquy.Proofs.Markup.Reached
import Colloquy.Proofs.Text.Sentences
import Colloquy.Proofs.Conversation.Composition
import Colloquy.Proofs.Rule.Representation
import Colloquy.Proofs.Evaluation.Effects
import Colloquy.Proofs.Evaluation.Unchanged
import Colloquy.Proofs.Learning.Rights
import Colloquy.Proofs.Learning.Provenance
import Colloquy.Proofs.Session
import Colloquy.Proofs.Cache.Recency
import Colloquy.Proofs.Conversation.Passage
import Colloquy.Proofs.Learning.Lessons
import Colloquy.Proofs.Conversation.Repetition
import Colloquy.Proofs.Learning.Teaching
import Colloquy.Proofs.Learning.Accounts
import Colloquy.Proofs.Cache.Conservation
import Colloquy.Proofs.Markup.Joining
import Colloquy.Proofs.Markup.Levels
import Colloquy.Proofs.Scope.Sharing
import Colloquy.Proofs.Evaluation.Freezing
import Colloquy.Proofs.Selection.Change
import Colloquy.Proofs.Conversation.Prediction
import Colloquy.Proofs.Conversation.Outcome
import Colloquy.Proofs.Pattern.Grouping
import Colloquy.Proofs.Admission.Groups
import Colloquy.Proofs.Pattern.Saying
import Colloquy.Proofs.Admission.Firing
import Colloquy.Proofs.Admission.Parentheses
import Colloquy.Proofs.Text.Uppercase
import Colloquy.Proofs.Text.Division
import Colloquy.Proofs.Rule.Signature
import Colloquy.Proofs.Pattern.Respelling
import Colloquy.Proofs.Markup.Grammar
import Colloquy.Proofs.Scope.Canonical
import Colloquy.Proofs.Text.Partition
import Colloquy.Proofs.Pronoun.Tiling
import Colloquy.Proofs.Evaluation.Rehearing
import Colloquy.Proofs.Conversation.Reloading
import Colloquy.Proofs.Text.Outline
import Colloquy.Proofs.Pattern.Indexing
import Colloquy.Proofs.Markup.Spans
