import LoxTokens.Findings.Collector
import LoxTokens.Main
import LoxTokens.Package
import LoxTokens.Proofs.Blanking
import LoxTokens.Proofs.Calls
import LoxTokens.Proofs.Cutting
import LoxTokens.Proofs.Decoding
import LoxTokens.Proofs.Dialects
import LoxTokens.Proofs.Image
import LoxTokens.Proofs.LineNumbers
import LoxTokens.Proofs.Lookahead
import LoxTokens.Session.History
import LoxTokens.Proofs.LineBreaks
import LoxTokens.Proofs.Renaming
import LoxTokens.Proofs.Quotation
import LoxTokens.Proofs.Rescanning
import LoxTokens.Proofs.JsonDump
import LoxTokens.Proofs.PlainDump
import LoxTokens.Proofs.Summary
import LoxTokens.Proofs.Remedies
import LoxTokens.Proofs.Undecodable
import LoxTokens.Proofs.Channels
import LoxTokens.Proofs.Collecting
import LoxTokens.Proofs.Progress
import LoxTokens.Proofs.QuotedRecord
import LoxTokens.Proofs.Settings
import LoxTokens.Proofs.Sources
