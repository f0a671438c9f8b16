import StorageInventory.Main
import StorageInventory.Proofs.Collection.Labels
import StorageInventory.Proofs.Collection.MountPoints
import StorageInventory.Proofs.Collection.Ownership
import StorageInventory.Proofs.Collection.Rearrangement
import StorageInventory.Proofs.Collection.Replay
import StorageInventory.Proofs.Collection.RoundTrip
import StorageInventory.Proofs.Collection.Selection
import StorageInventory.Proofs.CommandLine.Endings
import StorageInventory.Proofs.Diagnostics.Histories
import StorageInventory.Proofs.Linux.VolumeUuids
import StorageInventory.Proofs.Name.Comparison
import StorageInventory.Proofs.Pass.CounterRows
import StorageInventory.Proofs.Pass.MountListing
import StorageInventory.Proofs.Pass.Registers
import StorageInventory.Proofs.Provider.Reading
import StorageInventory.Proofs.Session.Batches
import StorageInventory.Proofs.Session.Interruption
import StorageInventory.Proofs.Session.Repetition
import StorageInventory.Proofs.Settings.Paths
