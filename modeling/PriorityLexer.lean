import PriorityLexer.ConfigText
import PriorityLexer.Proofs.Anchoring
import PriorityLexer.Proofs.Blame
import PriorityLexer.Proofs.ConfigParts
import PriorityLexer.Proofs.Consumption
import PriorityLexer.Proofs.Context
import PriorityLexer.Proofs.Elements
import PriorityLexer.Proofs.Extension
import PriorityLexer.Proofs.Fields
import PriorityLexer.Proofs.Flag
import PriorityLexer.Proofs.Grouping
import PriorityLexer.Proofs.Independence
import PriorityLexer.Proofs.Isolation
import PriorityLexer.Proofs.Progress
import PriorityLexer.Proofs.Safety
import PriorityLexer.Proofs.Serialization
import PriorityLexer.Proofs.Tokenization
import PriorityLexer.Proofs.Unescaping
import PriorityLexer.Proofs.Variants
import PriorityLexer.Session
