import AttributeRegistry.Text.Bytes
import AttributeRegistry.Text.Combining
import AttributeRegistry.Text.Printable
import AttributeRegistry.Text.Quoted
import AttributeRegistry.Text.Inspect
import AttributeRegistry.Identifier.Error
import AttributeRegistry.Identifier.Basic
import AttributeRegistry.Identifier.Order
import AttributeRegistry.Identifier.Datum
import AttributeRegistry.Identifier.Packed
import AttributeRegistry.TypeTag
import AttributeRegistry.Signature
import AttributeRegistry.Event
import AttributeRegistry.Table
import AttributeRegistry.Shared
import AttributeRegistry.Binary64.Basic
import AttributeRegistry.Binary64.Text
import AttributeRegistry.QueryMap.Snapshot
import AttributeRegistry.QueryMap.Basic
import AttributeRegistry.QueryMap.Draft
import AttributeRegistry.QueryMap.Call
import AttributeRegistry.QueryMap.Session
import AttributeRegistry.Registry.Basic
import AttributeRegistry.Registry.Session
import AttributeRegistry.Item
import AttributeRegistry.Provider
import AttributeRegistry.ItemLookup.Error
import AttributeRegistry.ItemLookup.Basic
import AttributeRegistry.ItemLookup.Query
import AttributeRegistry.Catalogue
import AttributeRegistry.Catalogue.Call
import AttributeRegistry.Scenario.Value
import AttributeRegistry.Scenario.Script
import AttributeRegistry.Scenario.Play
import AttributeRegistry.Proofs.Identifier.Reading
import AttributeRegistry.Proofs.Identifier.Encoding
import AttributeRegistry.Proofs.Table.Entries
import AttributeRegistry.Proofs.QueryMap.Batch
import AttributeRegistry.Proofs.QueryMap.Generations
import AttributeRegistry.Proofs.QueryMap.Locality
import AttributeRegistry.Proofs.ItemLookup.Registration
import AttributeRegistry.Proofs.ItemLookup.Consultation
import AttributeRegistry.Proofs.ItemLookup.Renaming
import AttributeRegistry.Proofs.ItemLookup.Exchange
import AttributeRegistry.Proofs.QueryMap.PartialMap
import AttributeRegistry.Proofs.QueryMap.Refinement
import AttributeRegistry.Proofs.Registry.Requests
import AttributeRegistry.Proofs.Registry.Refusals
import AttributeRegistry.Proofs.Catalogue.Shelf
import AttributeRegistry.Proofs.Catalogue.Sharing
import AttributeRegistry.Proofs.Catalogue.Commands
import AttributeRegistry.Proofs.Catalogue.Solitude
import AttributeRegistry.Proofs.QueryMap.SingleKey
import AttributeRegistry.Proofs.Registry.Cursors
import AttributeRegistry.QueryMap.Place
import AttributeRegistry.Proofs.QueryMap.Rekeying
import AttributeRegistry.Proofs.QueryMap.Identity
import AttributeRegistry.Proofs.ItemLookup.Ownership
import AttributeRegistry.Proofs.ItemLookup.Identity
import AttributeRegistry.Proofs.Identifier.Spelling
import AttributeRegistry.Proofs.Registry.Spelling
import AttributeRegistry.Proofs.Catalogue.Spelling
import AttributeRegistry.Proofs.Identifier.Grammar
import AttributeRegistry.Proofs.QueryMap.Pieces
import AttributeRegistry.Proofs.QueryMap.LastWins
import AttributeRegistry.Proofs.ItemLookup.Duplicates
import AttributeRegistry.Proofs.Identifier.Comparison
import AttributeRegistry.Proofs.Identifier.Sorting
import AttributeRegistry.Proofs.Identifier.Joining
import AttributeRegistry.Proofs.Identifier.TextOrder
import AttributeRegistry.Proofs.QueryMap.Visibility
import AttributeRegistry.Proofs.QueryMap.Views
