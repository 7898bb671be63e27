import SqlBuilder.Statement.Method
import SqlBuilder.Statement.Equality
import SqlBuilder.Statement.Dump
import SqlBuilder.Settings.Stored
import SqlBuilder.Renderer
import SqlBuilder.Proofs.Fidelity
import SqlBuilder.Proofs.NamedValues
import SqlBuilder.Proofs.CompoundMeaning
import SqlBuilder.Proofs.Completeness
import SqlBuilder.Proofs.RecordedErrors
import SqlBuilder.Proofs.VerbPosition
import SqlBuilder.Proofs.Facets
import SqlBuilder.Proofs.Interference
import SqlBuilder.Proofs.AliasScope
import SqlBuilder.Proofs.StoredShape
import SqlBuilder.Proofs.PaginationScope
import SqlBuilder.Proofs.LayoutLaws
import SqlBuilder.Proofs.Punctuation
import SqlBuilder.Proofs.RefusedCalls
import SqlBuilder.Proofs.ErrorClasses
import SqlBuilder.Proofs.GateAgreement
import SqlBuilder.Proofs.Registry
import SqlBuilder.Proofs.ClauseHistory
import SqlBuilder.Proofs.LatestValues
import SqlBuilder.Proofs.BulkCalls
import SqlBuilder.Proofs.Emptiness
import SqlBuilder.Proofs.LoggedText
import SqlBuilder.Proofs.PageClauses
import SqlBuilder.Proofs.PageWindows
import SqlBuilder.Proofs.StoredSettings
