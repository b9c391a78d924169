import ContractTypes.Document.Printer
import ContractTypes.Main
import ContractTypes.Proofs.CommandLine.Files
import ContractTypes.Proofs.CommandLine.Generation
import ContractTypes.Proofs.CommandLine.Override
import ContractTypes.Proofs.CommandLine.Quiet
import ContractTypes.Proofs.Declaration.Arrangement
import ContractTypes.Proofs.Declaration.Enlargement
import ContractTypes.Proofs.Declaration.Expansion
import ContractTypes.Proofs.Declaration.Rearrangement
import ContractTypes.Proofs.Declaration.Relayout
import ContractTypes.Proofs.Declaration.Tags
import ContractTypes.Proofs.Document.Loading
import ContractTypes.Proofs.Document.Problems
import ContractTypes.Proofs.Document.Restatement
import ContractTypes.Proofs.Inheritance.CyclePath
import ContractTypes.Proofs.Naming.Idempotence
import ContractTypes.Proofs.Resolution.AliasCycle
import ContractTypes.Proofs.Resolution.AliasTarget
import ContractTypes.Proofs.Resolution.Recursion
import ContractTypes.Proofs.TypeRef.Exchange
import ContractTypes.Proofs.TypeText.Ambiguity
import ContractTypes.Proofs.TypeText.Recursion
import ContractTypes.Proofs.Warning.Report
import ContractTypes.Text.Base64
import ContractTypes.Text.DecimalDigit
